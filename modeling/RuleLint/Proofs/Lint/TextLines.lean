import RuleLint.Proofs.Lint.Anchoring
import RuleLint.Proofs.Lint.Messages

namespace RuleLint

open Text

def Severity.mark (s : Severity) : List Char := ("[" ++ s.tag ++ "] ").toList

/-- The line shows a diagnostic of this severity. -/
def Severity.Marks (s : Severity) (line : List Char) : Prop := s.mark <+: line

instance (s : Severity) (line : List Char) : Decidable (s.Marks line) :=
  inferInstanceAs (Decidable (_ <+: _))

/-- The line goes on with the message of an earlier one. -/
def IsIndented (line : List Char) : Prop := "    ".toList <+: line

/-- The lines of a report in text: as many with each tag as the summary says, the others indented
but for the summary, which is the last that is not empty. -/
structure Report.ShownAs (r : Report) (lines : List (List Char)) : Prop where
  errors : lines.countP (Severity.error.Marks ·) = r.summary.errors
  warnings : lines.countP (Severity.warn.Marks ·) = r.summary.warnings
  infos : lines.countP (Severity.info.Marks ·) = r.summary.infos
  total : r.summary.errors + r.summary.warnings + r.summary.infos = r.diagnostics.length
  others : ∃ front, lines = front ++ [r.summary.render.toList, []] ∧ r.summary.render ≠ "" ∧
    ∀ l ∈ front, (∃ s : Severity, s.Marks l) ∨ IsIndented l

variable {d : Diagnostic} {s t : Severity} {l : List Char}

theorem Severity.Marks.eq (h : s.Marks l) (h' : t.Marks l) : s = t := by
  have heither := List.prefix_or_prefix_of_prefix h h'
  cases s <;> cases t <;> first | rfl | exact absurd heither (by decide)

theorem IsIndented.not_marks (h : IsIndented l) (s : Severity) : ¬ s.Marks l := by
  intro hmarks
  have heither := List.prefix_or_prefix_of_prefix h hmarks
  cases s <;> exact absurd heither (by decide)

namespace Diagnostic

/-- The diagnostic is shown on one line, but for what its message has below. -/
structure Tidy (d : Diagnostic) : Prop where
  message : Hanging d.message
  place : ∀ place, d.location = some place → SingleLine place.file

theorem singleLine_place (h : d.Tidy) :
    SingleLine (d.location.elim "" fun place => place.render ++ ": ") := by
  cases hplace : d.location with
  | none => decide
  | some place =>
    have hfile := h.place place hplace
    have hrender : SingleLine place.render := by
      unfold Location.render
      split
      · exact .append (.append hfile (by decide)) (singleLine_toString _)
      · exact hfile
    exact hrender.append (by decide)

theorem exists_fields_render (h : d.Tidy) :
    ∃ first rest, fields '\n' d.render.toList = first :: rest ∧ d.severity.Marks first ∧
    ∀ l ∈ rest, IsIndented l := by
  have htag : SingleLine ("[" ++ d.severity.tag ++ "] ") := by cases d.severity <;> decide
  obtain ⟨first, rest, hfields⟩ := List.exists_cons_of_ne_nil (fields_ne_nil '\n' d.message.toList)
  have hmessage := h.message
  unfold Hanging at hmessage
  rw [hfields] at hmessage
  refine ⟨d.severity.mark ++
    ((d.location.elim "" fun place => place.render ++ ": ").toList ++ first), rest, ?_,
    List.prefix_append _ _, hmessage⟩
  unfold render
  rw [String.toList_append, fields_append_of_notMem (htag.append (singleLine_place h)), hfields,
    List.modifyHead_cons, String.toList_append, List.append_assoc]
  rfl

theorem countP_fields_render (h : d.Tidy) (s : Severity) :
    (fields '\n' d.render.toList).countP (s.Marks ·) = if d.severity = s then 1 else 0 := by
  obtain ⟨first, rest, hfields, hfirst, hrest⟩ := exists_fields_render h
  have hnone : rest.countP (s.Marks ·) = 0 := by
    rw [List.countP_eq_zero]
    intro l hl
    simpa using (hrest l hl).not_marks s
  rw [hfields, List.countP_cons, hnone, Nat.zero_add]
  by_cases hs : d.severity = s
  · subst hs
    rw [if_pos rfl, if_pos (decide_eq_true hfirst)]
  · have hmarks : ¬ s.Marks first := fun hmarks => hs (hfirst.eq hmarks)
    rw [if_neg hs, if_neg (by simpa using hmarks)]

end Diagnostic

namespace Summary

theorem singleLine_render (s : Summary) : SingleLine s.render := by
  unfold render
  simp only [singleLine_append, singleLine_toString, and_true]
  decide

theorem head?_render (s : Summary) : s.render.toList.head? = some 'S' := by
  unfold render
  simp only [String.toList_append]
  rfl

theorem render_ne_empty (s : Summary) : s.render ≠ "" := by
  intro hempty
  have hhead := s.head?_render
  rw [hempty] at hhead
  contradiction

theorem not_marks_render (s : Summary) (severity : Severity) :
    ¬ severity.Marks s.render.toList := by
  rintro ⟨rest, hrest⟩
  have hbracket : s.render.toList.head? = some '[' := by
    rw [← hrest]
    cases severity <;> rfl
  exact absurd (hbracket.symm.trans s.head?_render) (by decide)

theorem countOf_add (ds : List Diagnostic) :
    countOf .error ds + countOf .warn ds + countOf .info ds = ds.length := by
  induction ds with
  | nil => rfl
  | cons d ds ih =>
    unfold countOf at ih ⊢
    rw [List.countP_cons, List.countP_cons, List.countP_cons, List.length_cons, ← ih]
    cases d.severity <;> simp <;> omega

end Summary

namespace Report

theorem fields_renderText (r : Report) :
    fields '\n' r.renderText.toList =
      r.diagnostics.flatMap (fun d => fields '\n' d.render.toList) ++
        [r.summary.render.toList, []] := by
  have htext : r.renderText.toList =
      (r.diagnostics.map fun d => d.render.toList).flatMap (· ++ ['\n']) ++
        (r.summary.render.toList ++ ['\n']) := by
    unfold renderText
    simp only [String.toList_append, String.toList_join, List.flatMap_map, List.append_assoc]
    rfl
  rw [htext, fields_flatMap_append, List.flatMap_map, fields_append_cons,
    fields_eq_singleton r.summary.singleLine_render]
  rfl

theorem countP_fields_renderText {r : Report} (h : ∀ d ∈ r.diagnostics, d.Tidy) (s : Severity) :
    (fields '\n' r.renderText.toList).countP (s.Marks ·) = Summary.countOf s r.diagnostics := by
  have hsummary : [r.summary.render.toList, []].countP (s.Marks ·) = 0 := by
    have hempty : ¬ s.Marks [] := by cases s <;> decide
    rw [List.countP_cons_of_neg (by simpa using r.summary.not_marks_render s),
      List.countP_cons_of_neg (by simpa using hempty), List.countP_nil]
  rw [fields_renderText, List.countP_append, hsummary, Nat.add_zero, List.countP_flatMap]
  unfold Summary.countOf
  generalize r.diagnostics = ds at h
  induction ds with
  | nil => rfl
  | cons d ds ih =>
    obtain ⟨hd, hds⟩ := List.forall_mem_cons.mp h
    rw [List.map_cons, List.sum_cons, ih hds, List.countP_cons, Function.comp_apply,
      d.countP_fields_render hd, Nat.add_comm]
    simp only [decide_eq_true_eq]

theorem shownAs_fields {root : String} {filesChecked : Nat} {ds : List Diagnostic}
    (h : ∀ d ∈ ds, d.Tidy) :
    ShownAs (.ofDiagnostics root filesChecked ds)
      (fields '\n' (ofDiagnostics root filesChecked ds).renderText.toList) := by
  have hcount (s : Severity) :=
    countP_fields_renderText (r := .ofDiagnostics root filesChecked ds) h s
  refine ⟨hcount .error, hcount .warn, hcount .info, Summary.countOf_add ds, ?_⟩
  refine ⟨_, fields_renderText _, Summary.render_ne_empty _, ?_⟩
  intro l hl
  obtain ⟨d, hd, hl⟩ := List.mem_flatMap.mp hl
  obtain ⟨first, rest, hfields, hfirst, hrest⟩ := Diagnostic.exists_fields_render (h d hd)
  rw [hfields] at hl
  rcases List.mem_cons.mp hl with rfl | hl
  · exact .inl ⟨_, hfirst⟩
  · exact .inr (hrest l hl)

end Report

theorem Path.singleLine_displayName {p : Path} (root : Path) (hp : SingleLine p.text) :
    SingleLine (root.displayName p) := by
  unfold displayName
  split
  · rename_i below hbelow
    unfold below? at hbelow
    split_ifs at hbelow
    obtain rfl := Option.some.inj hbelow
    refine singleLine_intercalate (by decide) ?_
    intro name hname
    obtain ⟨c, hc, rfl⟩ := List.mem_map.mp hname
    rcases text_of_mem_components (List.mem_of_mem_drop hc) with rfl | hfield
    · decide
    · exact singleLine_ofList.mpr fun hfeed => hp (subset_of_mem_fields hfield hfeed)
  · exact hp

namespace Lint

variable {tree : FileTree} {root : Path} {settings : Settings} {prober : Prober}
variable {files : List Document} {document : Document} {report : Report} {log : ProbeLog}

/-- Neither the paths that a run shows nor the answers that it was given have a line feed. -/
structure FeedFree (tree : FileTree) (root : Path) (settings : Settings)
    (log : ProbeLog) : Prop where
  shown : SingleLine root.text
  config : SingleLine settings.configPath.text
  listed : ∀ paths, tree.listFiles root settings.listExtension = .ok paths →
    ∀ p ∈ paths, SingleLine p.text
  answers : ∀ url reason, (url, some reason) ∈ log.entries → SingleLine reason

theorem FeedFree.label (h : FeedFree tree root settings log)
    (hdocument : IsLookedAt tree root settings document) :
    SingleLine document.label := by
  obtain ⟨p, hp, -, hlabel⟩ := hdocument
  rw [hlabel]
  apply Path.singleLine_displayName
  cases hp with
  | ruleFile hlist hp => exact h.listed _ hlist p hp
  | config hp hfile =>
    rw [hp]
    exact Source.singleLine_join h.shown h.config

theorem hanging_rulesDiagnostics (h : FeedFree tree root settings log)
    (hf : ruleFiles tree root settings.listExtension = .ok files)
    (hd : d ∈ rulesDiagnostics files) :
    Hanging d.message := by
  rcases List.mem_append.mp hd with hd | hd
  · obtain ⟨document, -, hd⟩ := List.mem_flatMap.mp hd
    rcases List.mem_append.mp hd with hd | hd
    · exact (Rule.singleLine_checkFile hd).hanging
    · exact (Rule.singleLine_repeatedDiagnostic? (Option.mem_toList.mp hd)).hanging
  · refine Rule.DuplicateIndex.hanging_report? ?_ (Option.mem_toList.mp hd)
    intro name rule hnotes
    obtain ⟨document, hdocument, rfl, hrule⟩ := notes_duplicateIndex.mp hnotes
    exact ⟨h.label (isLookedAt_ruleFile hf hdocument), Rule.singleLine_of_mem_rules hrule⟩

theorem singleLine_textDiagnostics (hd : d ∈ textDiagnostics document) : SingleLine d.message := by
  rcases List.mem_append.mp hd with hd | hd
  · rcases List.mem_append.mp hd with hd | hd
    · exact Profile.singleLine_readingDiagnostics hd
    · exact Profile.singleLine_checkNames hd
  · exact Profile.singleLine_checkReferences hd

theorem singleLine_missingConfig {p : Path} (h : SingleLine p.text) :
    SingleLine (missingConfig p).message := by
  simp +decide only [missingConfig, Diagnostic.warn, Diagnostic.withKind, singleLine_append,
    h, and_self]

theorem hanging_origin (h : FeedFree tree root settings log)
    (horigin : Origin tree root settings prober log d) :
    Hanging d.message := by
  cases horigin with
  | rules hf hd => exact hanging_rulesDiagnostics h hf hd
  | missing => exact (singleLine_missingConfig (Source.singleLine_join h.shown h.config)).hanging
  | text hc hdocument hd => exact (singleLine_textDiagnostics hd).hanging
  | source hc hdocument ht hr hsaid =>
    obtain ⟨hname, hsource⟩ := Profile.singleLine_ruleSet hr
    refine (Source.Checker.singleLine_said hname hsource h.shown ?_ hsaid).hanging
    intro url reason hverdict
    exact h.answers url reason (ProbeLog.mem_entries_of_verdict? hverdict)

theorem tidy_origin (h : FeedFree tree root settings log)
    (horigin : Origin tree root settings prober log d) :
    d.Tidy := by
  refine ⟨hanging_origin h horigin, ?_⟩
  intro place hplace
  have hne : d.location ≠ none := by
    rw [hplace]
    exact Option.some_ne_none place
  obtain ⟨document, hdocument, line, hline, -⟩ := exists_placedIn horigin hne
  obtain rfl := Option.some.inj (hplace.symm.trans hline)
  exact h.label hdocument

/-- Nothing that files hold can make a line of the report look like that of a diagnostic, or hide
one. -/
theorem shownAs_of_run (h : run tree root settings prober = .ok (report, log))
    (hfree : FeedFree tree root settings log) :
    report.ShownAs (fields '\n' report.renderText.toList) := by
  have hreport := reports_of_run h
  have htidy : ∀ d ∈ report.diagnostics, d.Tidy :=
    fun d hd => tidy_origin hfree (origin_of_mem hreport hd)
  cases hreport with
  | missing | config => exact Report.shownAs_fields htidy

theorem entries_of_skip (hreport : Reports tree root settings prober report log)
    (hskip : settings.reachability = .skip) : log.entries = [] := by
  cases hreport with
  | missing => rfl
  | @config _ document trust _ _ _ _ _ _ hfound =>
    have hasks : (checkerOf tree root settings prober trust).asks = false := by
      simp [Source.Checker.asks, checkerOf, hskip]
    obtain ⟨-, rfl⟩ := Prod.mk.inj hfound
    have hurls :=
      Source.Checker.urls_checkAll_empty (checkerOf tree root settings prober trust) document.label
        (Profile.ofText document.content).ruleSets
    rw [hasks] at hurls
    exact List.map_eq_nil_iff.mp hurls

/-- A rule and a name that would look like diagnostics if they stood on lines of their own. -/
theorem shownAs_smallTree :
    let tree := smallTree "[ERROR] a\n" "ruleset=[WARN] b\n"
    ∃ report log, run tree ⟨"r"⟩ smallSettings (fun _ _ => none) = .ok (report, log) ∧
      FeedFree tree ⟨"r"⟩ smallSettings log ∧
      report.ShownAs (fields '\n' report.renderText.toList) := by
  intro tree
  obtain ⟨report, log, h⟩ := run_smallTree "[ERROR] a\n" "ruleset=[WARN] b\n" fun _ _ => none
  have hfree : FeedFree tree ⟨"r"⟩ smallSettings log := by
    refine ⟨by decide, by decide, ?_, ?_⟩
    · intro paths hlist p hp
      obtain rfl := Except.ok.inj ((listFiles_smallTree _ _).symm.trans hlist)
      rw [List.mem_singleton.mp hp]
      decide
    · rw [entries_of_skip (reports_of_run h) rfl]
      exact nofun
  exact ⟨report, log, h, hfree, shownAs_of_run h hfree⟩

end Lint

end RuleLint
