import RuleLint.Proofs.Rule.DuplicateIndex
import RuleLint.Proofs.Rule.LineByLine
import RuleLint.Proofs.Rule.Verdict

namespace RuleLint

open Text

/-- The diagnostics that are not about style. -/
def Diagnostic.beyondStyle (ds : List Diagnostic) : List Diagnostic :=
  ds.filter (·.kind ≠ some .style)

namespace Rule

open Diagnostic

/-- What may be put around a line: blanks, and a comment behind it. -/
structure Wrapping where
  left : String
  right : String
  comment : String
  blank : ∀ c ∈ left.toList ++ right.toList, isBlank c = true
  marked : comment = "" ∨ comment.toList.head? = some '#'

def Wrapping.around (w : Wrapping) (line : String) : String :=
  w.left ++ line ++ w.right ++ w.comment

structure SaidAlike (line other : String) : Prop where
  beyond_style : ∀ file n, beyondStyle (checkLine file n line.toList) =
    beyondStyle (checkLine file n other.toList)
  errors : ∀ file n, (checkLine file n line.toList).filter isError =
    (checkLine file n other.toList).filter isError
  range : ∀ file n,
    (checkLine file n line.toList).filter (fun d => d.severity = .warn ∧ d.kind = some .malformed) =
    (checkLine file n other.toList).filter (fun d => d.severity = .warn ∧ d.kind = some .malformed)

/-- The same is said about two files, but for the style of their lines, and they count as the same
for duplicates. -/
structure AlikeButStyle (content other : String) : Prop where
  entries : entries content = entries other
  repeated : repeated content = repeated other
  add : ∀ (index : DuplicateIndex) (file : String), index.add file content = index.add file other
  checkFile : ∀ file, beyondStyle (checkFile file content) = beyondStyle (checkFile file other)

theorem hash_notMem_of_blank {s : List Char} (h : ∀ c ∈ s, isBlank c = true) : '#' ∉ s :=
  fun hmark => absurd (h '#' hmark) (by decide)

theorem hash_notMem_ofLine (line : List Char) : '#' ∉ ofLine line := by
  obtain ⟨left, right, comment, -, hmark, -⟩ := holds_ofLine line
  exact fun h => hmark (List.mem_append_left _ (List.mem_append_right _ h))

theorem trimmed_ofLine (line : List Char) : Trimmed (ofLine line) := by
  obtain ⟨_, _, _, -, -, -, -, htrimmed⟩ := holds_ofLine line
  exact htrimmed

theorem ofLine_ofLine (line : List Char) : ofLine (ofLine line) = ofLine line := by
  refine (holds_iff.mp ⟨[], [], [], ?_, ?_, .inl rfl, nofun, trimmed_ofLine line⟩).symm
  · simp only [List.nil_append, List.append_nil]
  · simpa only [List.nil_append, List.append_nil] using hash_notMem_ofLine line

theorem Holds.around {line rule : List Char} (h : Holds line rule) (w : Wrapping) :
    Holds (w.left.toList ++ line ++ w.right.toList ++ w.comment.toList) rule := by
  obtain ⟨hleft, hright⟩ := List.forall_mem_append.mp w.blank
  obtain ⟨left, right, comment, rfl, hmark, hcomment, hblank, htrimmed⟩ := h
  obtain ⟨hleft', hright'⟩ := List.forall_mem_append.mp hblank
  obtain ⟨hcode, hmark'⟩ := not_or.mp (mt List.mem_append.mpr hmark)
  obtain ⟨-, hrule⟩ := not_or.mp (mt List.mem_append.mpr hcode)
  have hleft'' := hash_notMem_of_blank hleft
  rcases hcomment with rfl | hhead
  · -- The line has no comment, and what is put behind it is behind its rule.
    refine ⟨w.left.toList ++ left, right ++ w.right.toList, w.comment.toList, ?_, ?_, ?_,
      ?_, htrimmed⟩
    · simp only [List.append_assoc, List.nil_append]
    · simp only [List.mem_append, not_or]
      exact ⟨⟨⟨hleft'', hash_notMem_of_blank hleft'⟩, hrule⟩, hmark', hash_notMem_of_blank hright⟩
    · exact w.marked.imp_left fun hnone => by rw [hnone]; rfl
    · simp only [List.forall_mem_append]
      exact ⟨⟨hleft, hleft'⟩, hright', hright⟩
  · -- What is put behind the line is part of its comment.
    refine ⟨w.left.toList ++ left, right, comment ++ (w.right.toList ++ w.comment.toList), ?_, ?_,
      .inr ?_, ?_, htrimmed⟩
    · simp only [List.append_assoc]
    · simp only [List.mem_append, not_or]
      exact ⟨⟨⟨hleft'', hash_notMem_of_blank hleft'⟩, hrule⟩, hmark'⟩
    · rw [List.head?_append, hhead]
      rfl
    · simp only [List.forall_mem_append]
      exact ⟨⟨hleft, hleft'⟩, hright'⟩

theorem ofLine_around (w : Wrapping) (line : String) :
    ofLine (w.around line).toList = ofLine line.toList := by
  have hwrapped := (holds_ofLine line.toList).around w
  unfold Wrapping.around
  simp only [String.toList_append]
  exact (holds_iff.mp hwrapped).symm

variable {file : String} {n : Nat} {line other : List Char}

def ruleDiagnostics (file : String) (n : Nat) (rule : List Char) : List Diagnostic :=
  if rule = [] then [] else (findings rule).map fun f => (f.diagnostic (.ofList rule)).onLine file n

theorem beyondStyle_checkLine (file : String) (n : Nat) (line : List Char) :
    beyondStyle (checkLine file n line) = ruleDiagnostics file n (ofLine line) := by
  unfold beyondStyle ruleDiagnostics
  by_cases hrule : ofLine line = []
  · rw [checkLine_of_no_rule hrule, if_pos hrule, List.filter_nil]
  · have hkept :
        ((findings (ofLine line)).map (Finding.report file n line)).filter (·.kind ≠ some .style) =
        (findings (ofLine line)).map (Finding.report file n line) :=
      List.filter_eq_self.mpr fun d hd => decide_eq_true (kind_report_of_mem_findings hd)
    have hlast : (if endsBlank line then [Finding.report file n line .trailingBlank] else []).filter
        (·.kind ≠ some .style) = [] := by
      split_ifs <;> rfl
    rw [checkLine_of_rule hrule, List.filter_append, hkept, hlast, List.append_nil, if_neg hrule]
    rfl

theorem filter_beyondStyle {p : Diagnostic → Bool} {ds : List Diagnostic}
    (h : ∀ d ∈ ds, p d = true → d.kind ≠ some .style) :
    (beyondStyle ds).filter p = ds.filter p := by
  unfold beyondStyle
  rw [List.filter_filter]
  apply List.filter_congr
  intro d hd
  rw [Bool.and_eq_left_iff_imp]
  exact fun hp => decide_eq_true (h d hd hp)

theorem kind_of_isError {d : Diagnostic} (hd : d ∈ checkLine file n line)
    (herror : d.isError = true) :
    d.kind ≠ some .style := by
  obtain ⟨f, -, rfl⟩ := List.mem_map.mp hd
  apply Finding.kind_report_of_ne
  rintro rfl
  contradiction

theorem filter_isError_checkLine (file : String) (n : Nat) (line : List Char) :
    (checkLine file n line).filter isError =
      (ruleDiagnostics file n (ofLine line)).filter isError := by
  rw [← beyondStyle_checkLine, filter_beyondStyle fun d => kind_of_isError]

theorem saidAlike_of_ofLine {a b : String} (h : ofLine a.toList = ofLine b.toList) :
    SaidAlike a b := by
  have hbeyond (file : String) (n : Nat) :
      beyondStyle (checkLine file n a.toList) = beyondStyle (checkLine file n b.toList) := by
    rw [beyondStyle_checkLine, beyondStyle_checkLine, h]
  refine ⟨hbeyond, fun file n => ?_, fun file n => ?_⟩
  · rw [filter_isError_checkLine, filter_isError_checkLine, h]
  · have hkind (d : Diagnostic)
        (hd : decide (d.severity = .warn ∧ d.kind = some .malformed) = true) :
        d.kind ≠ some .style := by
      rw [(of_decide_eq_true hd).2]
      decide
    rw [← filter_beyondStyle fun d _ => hkind d, hbeyond, filter_beyondStyle fun d _ => hkind d]

/-- But for style, what is said about a file is what is said about its entries. -/
theorem beyondStyle_checkFile (file content : String) :
    beyondStyle (checkFile file content) =
      (entries content).flatMap fun e => ruleDiagnostics file e.line e.rule.toList := by
  have hlines : beyondStyle (checkFile file content) =
      (numberedLines content).flatMap fun l => beyondStyle (checkLine file l.number l.text) :=
    List.filter_flatMap
  rw [hlines]
  unfold entries
  induction numberedLines content with
  | nil => rfl
  | cons l ls ih =>
    rw [List.flatMap_cons, ih, beyondStyle_checkLine, List.filterMap_cons]
    dsimp only
    by_cases hrule : ofLine l.text = []
    · rw [if_pos hrule, hrule]
      rfl
    · rw [if_neg hrule, List.flatMap_cons, String.toList_ofList]

theorem alikeButStyle_of_entries {a b : String} (h : entries a = entries b) :
    AlikeButStyle a b := by
  have hrepeated : repeated a = repeated b := by
    unfold repeated
    rw [h]
  refine ⟨h, hrepeated, fun index file => ?_, fun file => ?_⟩
  · unfold DuplicateIndex.add DuplicateIndex.addFile repeatedDiagnostic?
    rw [hrepeated, h]
  · rw [beyondStyle_checkFile, beyondStyle_checkFile, h]

theorem ofLine_append_return (line : List Char) : ofLine (line ++ ['\r']) = ofLine line := by
  have hreturn :=
    (holds_ofLine line).around ⟨"", "\r", "", List.all_eq_true.mp (by decide), .inl rfl⟩
  exact (holds_iff.mp (by simpa using hreturn)).symm

theorem entries_of_lines {content : String} (h : lines content.toList = [line]) :
    entries content = if ofLine line = [] then [] else [⟨1, .ofList (ofLine line)⟩] := by
  have hnumbered : numberedLines content = [⟨1, line⟩] := by
    unfold numberedLines
    rw [h]
    rfl
  unfold entries
  rw [hnumbered]
  by_cases hrule : ofLine line = []
  · rw [if_pos hrule]
    exact List.filterMap_cons_none (if_pos hrule)
  · rw [if_neg hrule]
    exact List.filterMap_cons_some (if_neg hrule)

theorem entries_of_singleLine {text feed : String} (h : SingleLine text)
    (hfeed : feed = "" ∨ feed = "\n") :
    entries (text ++ feed) = if ofLine text.toList = [] then []
      else [⟨1, .ofList (ofLine text.toList)⟩] := by
  rcases hfeed with rfl | rfl
  · rw [String.append_empty]
    by_cases hempty : text = ""
    · rw [hempty]
      rfl
    · exact entries_of_lines (lines_of_no_feed h (mt String.toList_eq_nil_iff.mp hempty))
  · obtain ⟨line, hlines, hline⟩ := exists_lines_append_feed h
    have hrule : ofLine text.toList = ofLine line := by
      rcases hline with hline | hline
      · rw [hline]
      · rw [hline, ofLine_append_return]
    rw [entries_of_lines (by rw [String.toList_append]; exact hlines), hrule]

/-- Two lines with the same rule can stand for each other in a file. -/
theorem entries_congr_line {front a b rest : String} (hfront : Ended front.toList)
    (ha : SingleLine a) (hb : SingleLine b) (h : ofLine a.toList = ofLine b.toList)
    (hrest : AfterLine rest) :
    entries (front ++ a ++ rest) = entries (front ++ b ++ rest) := by
  have hlast : entries (a ++ rest) = entries (b ++ rest) := by
    rcases hrest with rfl | ⟨more, rfl⟩
    · rw [entries_of_singleLine ha (.inl rfl), entries_of_singleLine hb (.inl rfl), h]
    · rw [← String.append_assoc, ← String.append_assoc, entries_append (ended_line a),
        entries_append (ended_line b), entries_of_singleLine ha (.inr rfl),
        entries_of_singleLine hb (.inr rfl), feeds_line ha, feeds_line hb, h]
  rw [String.append_assoc, String.append_assoc, entries_append hfront, entries_append hfront, hlast]

/-- The rule of a line has no comment and no blanks around it, and it is its own rule. But for
style, it decides what is said about the line; so blanks that are put around a line and a comment
behind it make no difference to that, nor to the duplicates in a file that has the line. -/
theorem normalize_decides (line : String) :
    ('#' ∉ (normalize line).toList ∧ Trimmed (normalize line).toList ∧
      normalize (normalize line) = normalize line) ∧
    (∀ other, normalize other = normalize line → SaidAlike other line) ∧
    ∀ w : Wrapping, normalize (w.around line) = normalize line ∧ SaidAlike (w.around line) line ∧
      ∀ front rest, Ended front.toList → SingleLine line → SingleLine (w.around line) →
        AfterLine rest →
        AlikeButStyle (front ++ w.around line ++ rest) (front ++ line ++ rest) := by
  have hrule : (normalize line).toList = ofLine line.toList := String.toList_ofList
  refine ⟨⟨?_, ?_, ?_⟩, fun other h => ?_, fun w => ⟨?_, ?_, ?_⟩⟩
  · rw [hrule]
    exact hash_notMem_ofLine _
  · rw [hrule]
    exact trimmed_ofLine _
  · unfold normalize
    rw [String.toList_ofList, ofLine_ofLine]
  · exact saidAlike_of_ofLine (String.ofList_inj.mp h)
  · exact congrArg String.ofList (ofLine_around w line)
  · exact saidAlike_of_ofLine (ofLine_around w line)
  · intro front rest hfront hline hwrapped hrest
    exact alikeButStyle_of_entries
      (entries_congr_line hfront hwrapped hline (ofLine_around w line) hrest)

/-- A comment starts at its first mark, and blanks are those of Unicode. -/
example : normalize "\u2003DOMAIN,a.b\u00A0\t# x # y" = "DOMAIN,a.b" := by decide

end Rule

end RuleLint
