import RuleLint.Proofs.Rule.DuplicateIndex
import RuleLint.Proofs.Text.SingleLine

namespace RuleLint.Rule.DuplicateIndex

open Text

/-- The line shows a rule with its files, and an arrow between them two columns after the `width` of
the rules. -/
def IsRow (width : Nat) (duplicate : String × List String) (line : List Char) : Prop :=
  ∃ padding : List Char, (∀ c ∈ padding, c = ' ') ∧
    line = "    ".toList ++ duplicate.1.toList ++ padding ++ "  ->  ".toList ++
      (", ".intercalate duplicate.2).toList ∧
    ("    ".toList ++ duplicate.1.toList ++ padding ++ "  ".toList).length = 4 + width + 2

/-- The lines are a header with the number of duplicates, and a row for each of them in order. The
longest rule has the width of the rules. -/
structure IsTable (duplicates : List (String × List String)) (lines : List (List Char)) : Prop where
  count : lines.length = duplicates.length + 1
  header : lines.head? =
    some (toString duplicates.length ++ " rule(s) appear in more than one file:").toList
  rows : ∃ width, (∀ d ∈ duplicates, d.1.length ≤ width) ∧ (∃ d ∈ duplicates, d.1.length = width) ∧
    List.Forall₂ (IsRow width) duplicates lines.tail

variable {index : DuplicateIndex} {duplicates : List (String × List String)}

def rulesWidth (duplicates : List (String × List String)) : Nat :=
  (duplicates.map (·.1.length)).foldr max 0

theorem length_le_rulesWidth {d : String × List String} (h : d ∈ duplicates) :
    d.1.length ≤ rulesWidth duplicates := by
  induction duplicates with
  | nil => contradiction
  | cons e es ih =>
    rcases List.mem_cons.mp h with rfl | h
    · exact Nat.le_max_left _ _
    · exact Nat.le_trans (ih h) (Nat.le_max_right _ _)

theorem exists_length_eq_rulesWidth (h : duplicates ≠ []) :
    ∃ d ∈ duplicates, d.1.length = rulesWidth duplicates := by
  induction duplicates with
  | nil => contradiction
  | cons e es ih =>
    have hwidth : rulesWidth (e :: es) = max e.1.length (rulesWidth es) := rfl
    rcases Nat.le_total (rulesWidth es) e.1.length with hle | hle
    · exact ⟨e, List.mem_cons_self, by rw [hwidth, Nat.max_eq_left hle]⟩
    · by_cases hes : es = []
      · refine ⟨e, List.mem_cons_self, ?_⟩
        rw [hwidth, hes]
        exact (Nat.max_zero _).symm
      · obtain ⟨d, hd, hlength⟩ := ih hes
        exact ⟨d, List.mem_cons_of_mem _ hd, by rw [hwidth, Nat.max_eq_right hle, hlength]⟩

def tableRow (width : Nat) (d : String × List String) : String :=
  "    " ++ .ofList (d.1.toList.rightpad width ' ') ++ "  ->  " ++ ", ".intercalate d.2

theorem row_eq (width : Nat) (rule : String) (names : List String) :
    row width rule names = "\n" ++ tableRow width (rule, names) := by
  have hstart : "\n    " = "\n" ++ "    " := by decide
  unfold row tableRow
  rw [hstart]
  simp only [String.append_assoc]

theorem isRow_tableRow {width : Nat} {d : String × List String} (h : d.1.length ≤ width) :
    IsRow width d (tableRow width d).toList := by
  refine ⟨List.replicate (width - d.1.toList.length) ' ',
    fun c hc => List.eq_of_mem_replicate hc, ?_, ?_⟩
  · unfold tableRow List.rightpad
    simp only [String.toList_append, String.toList_ofList, List.append_assoc]
  · simp only [List.length_append, List.length_replicate, String.length_toList]
    have hlead : "    ".length = 4 := by decide
    have hgap : "  ".length = 2 := by decide
    omega

theorem singleLine_tableRow {d : String × List String}
    (h : SingleLine d.1 ∧ ∀ name ∈ d.2, SingleLine name) (width : Nat) :
    SingleLine (tableRow width d) := by
  have hpadded : SingleLine (.ofList (d.1.toList.rightpad width ' ')) := by
    rw [singleLine_ofList]
    intro hfeed
    rcases List.mem_append.mp hfeed with hfeed | hfeed
    · exact h.1 hfeed
    · exact absurd (List.eq_of_mem_replicate hfeed) (by decide)
  have hlead : SingleLine "    " := by decide
  have harrow : SingleLine "  ->  " := by decide
  exact ((hlead.append hpadded).append harrow).append (singleLine_intercalate (by decide) h.2)

theorem prefix_tableRow (width : Nat) (d : String × List String) :
    "    ".toList <+: (tableRow width d).toList := by
  unfold tableRow
  simp only [String.append_assoc, String.toList_append]
  exact List.prefix_append _ _

def header (n : Nat) : String := toString n ++ " rule(s) appear in more than one file:"

theorem singleLine_header (n : Nat) : SingleLine (header n) :=
  .append (singleLine_toString n) (by decide)

theorem report?_of_ne_nil (h : index.duplicates ≠ []) :
    index.report? = some (.error .duplicate (header index.duplicates.length ++
      .join
        ((index.duplicates.map (tableRow (rulesWidth index.duplicates))).map ("\n" ++ ·)))) := by
  have hrows (width : Nat) : (index.duplicates.map fun d => row width d.1 d.2) =
      (index.duplicates.map (tableRow width)).map ("\n" ++ ·) := by
    rw [List.map_map]
    exact List.map_congr_left fun d _ => row_eq width d.1 d.2
  rw [← hrows]
  unfold report?
  split
  · contradiction
  · rfl

/-- If neither the names of files nor the rules have line feeds, those of the table are between its
lines. -/
theorem singleLine_of_mem_duplicates
    (hnotes : ∀ name rule, index.Notes name rule → SingleLine name ∧ SingleLine rule)
    {d : String × List String} (h : d ∈ index.duplicates) :
    SingleLine d.1 ∧ ∀ name ∈ d.2, SingleLine name := by
  obtain ⟨⟨name, _, -, hname, -⟩, -, hmem⟩ := mem_duplicates_iff_notes.mp h
  exact ⟨(hnotes name d.1 hname).2,
    fun other hother => (hnotes other d.1 ((hmem other).mp hother)).1⟩

theorem isTable_report? (hne : index.duplicates ≠ [])
    (h : ∀ d ∈ index.duplicates, SingleLine d.1 ∧ ∀ name ∈ d.2, SingleLine name) :
    ∃ d, index.report? = some d ∧ IsTable index.duplicates (fields '\n' d.message.toList) := by
  refine ⟨_, report?_of_ne_nil hne, ?_⟩
  have hlines := fields_append_join (singleLine_header index.duplicates.length)
    (List.forall_mem_map.mpr fun d hd => singleLine_tableRow (h d hd) (rulesWidth index.duplicates))
  show IsTable _ (fields '\n' (_ ++ String.join _).toList)
  rw [hlines]
  refine ⟨?_, rfl, rulesWidth index.duplicates, fun d => length_le_rulesWidth,
    exists_length_eq_rulesWidth hne, ?_⟩
  · simp only [List.length_cons, List.length_map]
  · rw [List.tail_cons, List.map_map, List.forall₂_map_right_iff, List.forall₂_same]
    exact fun d hd => isRow_tableRow (length_le_rulesWidth hd)

/-- After any calls of `add`, the duplicates are reported in a table if there are any, unless the
index has a file whose name has a line feed. -/
theorem report_table (calls : List (String × String))
    (hnames : ∀ name rule, (empty.addAll calls).2.Notes name rule → SingleLine name)
    (hfound : (empty.addAll calls).2.duplicates ≠ []) :
    ∃ d, (empty.addAll calls).2.report? = some d ∧
      IsTable (empty.addAll calls).2.duplicates (fields '\n' d.message.toList) := by
  refine isTable_report? hfound fun d hd =>
    singleLine_of_mem_duplicates (fun name rule hnotes => ?_) hd
  obtain ⟨content, -, hrule⟩ := notes_addAll_empty.mp hnotes
  exact ⟨hnames name rule hnotes, singleLine_of_mem_rules hrule⟩

def sharedCalls : List (String × String) :=
  [("b.list", "DOMAIN,\u4F8B\u5B50\nDOMAIN,a.example\r\n"),
    ("a.list", " DOMAIN,a.example # x\nDOMAIN,\u4F8B\u5B50"), ("c.list", "DOMAIN,c"),
    ("c.list", "DOMAIN,c")]

theorem report_table_sharedCalls :
    (∀ name rule, (empty.addAll sharedCalls).2.Notes name rule → SingleLine name) ∧
    (empty.addAll sharedCalls).2.duplicates ≠ [] ∧
    ∃ d, (empty.addAll sharedCalls).2.report? = some d ∧
      IsTable (empty.addAll sharedCalls).2.duplicates (fields '\n' d.message.toList) := by
  have hcalls : ∀ c ∈ sharedCalls, SingleLine c.1 := by decide
  have hnames (name rule : String) (hnotes : (empty.addAll sharedCalls).2.Notes name rule) :
      SingleLine name := by
    obtain ⟨content, hcall, -⟩ := notes_addAll_empty.mp hnotes
    exact hcalls _ hcall
  have hfound : (empty.addAll sharedCalls).2.duplicates ≠ [] := by decide +kernel
  exact ⟨hnames, hfound, report_table sharedCalls hnames hfound⟩

example : (empty.addAll sharedCalls).2.report?.map (·.message) =
    some ("2 rule(s) appear in more than one file:" ++
      "\n    DOMAIN,a.example  ->  a.list, b.list" ++
      "\n    DOMAIN,\u4F8B\u5B50         ->  a.list, b.list") := by
  decide +kernel

end RuleLint.Rule.DuplicateIndex
