import RuleLint.Proofs.Rule.DuplicateIndex
import RuleLint.Proofs.Rule.Repeated
import RuleLint.Proofs.Rule.Shape
import RuleLint.Proofs.Severity
import RuleLint.Proofs.Lint.Classes

namespace RuleLint

namespace Rule

def LinesWellFormed (content : String) : Prop :=
  ∀ line ∈ Text.lines content.toList, ofLine line = [] ∨ WellFormed (ofLine line)

theorem Finding.severity_diagnostic (rule : String) (f : Finding) :
    (f.diagnostic rule).severity = .error ↔ f.isError = true := by
  cases f with
  | unknownType | malformedBlock | truncatedAddress => exact iff_of_true rfl rfl
  | outOfRange | trailingBlank => exact iff_of_false nofun nofun

theorem errorFree_checkLine {file : String} {number : Nat} {line : List Char} :
    ErrorFree (checkLine file number line) ↔ ofLine line = [] ∨ WellFormed (ofLine line) := by
  have herrors :
      ErrorFree (checkLine file number line) ↔ ∀ f ∈ lineFindings line, f.isError ≠ true := by
    unfold checkLine
    rw [errorFree_map]
    exact forall₂_congr fun f _ => not_congr (Finding.severity_diagnostic _ f)
  rw [herrors]
  unfold lineFindings
  dsimp only
  by_cases hr : ofLine line = []
  · simp [hr]
  · have hblank : ∀ f ∈ (if Text.endsBlank line then [Finding.trailingBlank] else []),
        f.isError ≠ true := by
      intro f hf
      split_ifs at hf
      · rw [List.mem_singleton.mp hf]
        decide
      · contradiction
    rw [if_neg hr, List.forall_mem_append, and_iff_left hblank, or_iff_right hr,
      ← findings_isError_iff, List.any_eq_false]

theorem errorFree_checkFile {file content : String} :
    ErrorFree (checkFile file content) ↔ LinesWellFormed content := by
  unfold checkFile LinesWellFormed
  rw [errorFree_flatMap, ← Text.map_text_numberedLines, List.forall_mem_map]
  exact forall₂_congr fun l _ => errorFree_checkLine

theorem errorFree_repeatedDiagnostic? {file content : String} :
    ErrorFree (repeatedDiagnostic? file content).toList ↔ (rules content).Nodup := by
  rw [errorFree_iff_eq_nil, Option.toList_eq_nil_iff, repeatedDiagnostic?_eq_none_iff]
  intro d hd
  exact congrArg Prod.fst (classOf_repeatedDiagnostic? (Option.mem_toList.mp hd))

namespace DuplicateIndex

/-- A rule is a duplicate exactly if the index knows it from two files. -/
theorem exists_mem_duplicates_iff_notes {index : DuplicateIndex} {rule : String} :
    (∃ names, (rule, names) ∈ index.duplicates) ↔
      ∃ f g, f ≠ g ∧ index.Notes f rule ∧ index.Notes g rule := by
  constructor
  · rintro ⟨names, hm⟩
    exact (mem_duplicates_iff_notes.mp hm).1
  · rintro ⟨f, g, hfg, ⟨set, hr, hf⟩, hg⟩
    have hgs : g ∈ set := by simpa [Notes, hr] using hg
    exact ⟨_, mem_duplicates.mpr ⟨set, hr, two_le_size_iff.mpr ⟨f, hf, g, hgs, hfg⟩, rfl⟩⟩

theorem duplicates_eq_nil_iff {index : DuplicateIndex} :
    index.duplicates = [] ↔ ∀ f g rule, index.Notes f rule → index.Notes g rule → f = g := by
  rw [List.eq_nil_iff_forall_not_mem]
  constructor
  · intro h f g rule hf hg
    by_contra hfg
    obtain ⟨names, hm⟩ := exists_mem_duplicates_iff_notes.mpr ⟨f, g, hfg, hf, hg⟩
    exact h _ hm
  · rintro h ⟨rule, names⟩ hm
    obtain ⟨f, g, hfg, hf, hg⟩ := exists_mem_duplicates_iff_notes.mp ⟨names, hm⟩
    exact hfg (h f g rule hf hg)

theorem errorFree_report? {index : DuplicateIndex} :
    ErrorFree index.report?.toList ↔
      ∀ f g rule, index.Notes f rule → index.Notes g rule → f = g := by
  rw [errorFree_iff_eq_nil, Option.toList_eq_nil_iff, report?_eq_none_iff, duplicates_eq_nil_iff]
  intro d hd
  exact congrArg Prod.fst (classOf_report? (Option.mem_toList.mp hd))

end DuplicateIndex

end Rule

namespace Lint

open Rule

variable {files : List Document}

theorem notes_duplicateIndex {file rule : String} :
    (duplicateIndex files).Notes file rule ↔
      ∃ d ∈ files, d.label = file ∧ rule ∈ rules d.content := by
  have hindex : duplicateIndex files =
      (DuplicateIndex.empty.addAll (files.map fun d => (d.label, d.content))).2 := by
    rw [DuplicateIndex.addAll_snd, List.foldl_map]
    rfl
  rw [hindex, DuplicateIndex.notes_addAll_empty]
  simp only [DuplicateIndex.Held, List.mem_map, Prod.mk.injEq]
  constructor
  · rintro ⟨_, ⟨d, hd, rfl, rfl⟩, hr⟩
    exact ⟨d, hd, rfl, hr⟩
  · rintro ⟨d, hd, rfl, hr⟩
    exact ⟨_, ⟨d, hd, rfl, rfl⟩, hr⟩

theorem notes_unique_iff (h : (files.map Document.label).Nodup) :
    (∀ f g rule, (duplicateIndex files).Notes f rule →
        (duplicateIndex files).Notes g rule → f = g) ↔
      files.Pairwise fun d d' => (rules d.content).Disjoint (rules d'.content) := by
  simp only [notes_duplicateIndex]
  constructor
  · intro hu
    apply (List.pairwise_map.mp h).imp_of_mem
    intro d d' hd hd' hne rule hr hr'
    apply hne
    exact hu _ _ rule ⟨d, hd, rfl, hr⟩ ⟨d', hd', rfl, hr'⟩
  · rintro hp _ _ rule ⟨d, hd, rfl, hr⟩ ⟨d', hd', rfl, hr'⟩
    by_contra hne
    have hdd : d ≠ d' := fun he => hne (congrArg _ he)
    have : Std.Symm fun d d' : Document => (rules d.content).Disjoint (rules d'.content) :=
      ⟨fun _ _ hdis => hdis.symm⟩
    exact hp.forall hd hd' hdd hr hr'

/-- Nothing is wrong with rule files exactly if all their lines are fine and no rule is there
twice. -/
theorem errorFree_rulesDiagnostics (h : (files.map Document.label).Nodup) :
    ErrorFree (rulesDiagnostics files) ↔
      (∀ d ∈ files, LinesWellFormed d.content) ∧
      (files.flatMap fun d => rules d.content).Nodup := by
  unfold rulesDiagnostics ruleFileDiagnostics
  rw [errorFree_append, errorFree_flatMap, DuplicateIndex.errorFree_report?, notes_unique_iff h,
    List.nodup_flatMap]
  simp only [errorFree_append, errorFree_checkFile, errorFree_repeatedDiagnostic?, forall_and]
  exact and_assoc

end Lint

end RuleLint
