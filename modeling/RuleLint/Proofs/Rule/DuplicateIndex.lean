import Mathlib.Data.List.Sort
import Mathlib.Data.Set.Card
import RuleLint.Rule.DuplicateIndex
import RuleLint.Rule.Line
import RuleLint.Proofs.Rule.Line
import RuleLint.Proofs.Text.Utf8Order

namespace RuleLint.Rule

theorem two_le_length_iff {α : Type} [DecidableEq α] {xs : List α} (h : xs.Nodup) :
    2 ≤ xs.length ↔ ∃ x ∈ xs, ∃ y ∈ xs, x ≠ y := by
  rw [← List.toFinset_card_of_nodup h]
  show 1 < _ ↔ _
  rw [Finset.one_lt_card]
  simp only [List.mem_toFinset]

namespace DuplicateIndex

open Text

def Held (calls : List (String × String)) (file rule : String) : Prop :=
  ∃ content, (file, content) ∈ calls ∧ rule ∈ rules content

/-- The index knows that a file holds a rule. -/
def Notes (index : DuplicateIndex) (file rule : String) : Prop :=
  ∃ names, index.files[rule]? = some names ∧ file ∈ names

/-- Every rule in the index is in some file. -/
def Tight (index : DuplicateIndex) : Prop :=
  ∀ (rule : String) (names : Std.ExtTreeSet String), index.files[rule]? = some names →
    ∃ file, file ∈ names

theorem getElem?_insert (index : DuplicateIndex) (file rule other : String) :
    (index.insert file rule).files[other]? =
      if rule = other then some ((index.files[rule]?.getD ∅).insert file)
        else index.files[other]? := by
  unfold insert
  rw [Std.ExtTreeMap.getElem?_alter]
  simp only [Std.compare_eq_iff_eq]

theorem notes_insert {index : DuplicateIndex} {file rule other text : String} :
    (index.insert file rule).Notes other text ↔
      (other = file ∧ text = rule) ∨ index.Notes other text := by
  unfold Notes
  rw [getElem?_insert]
  by_cases h : rule = text
  · subst h
    cases index.files[rule]? <;>
      simp [Std.ExtTreeSet.mem_insert, eq_comm (a := other) (b := file)]
  · simp [h, Ne.symm h]

theorem tight_insert {index : DuplicateIndex} (ht : index.Tight) (file rule : String) :
    (index.insert file rule).Tight := by
  intro text names h
  rw [getElem?_insert] at h
  split_ifs at h with he
  · refine ⟨file, ?_⟩
    rw [← Option.some.inj h]
    exact Std.ExtTreeSet.mem_insert_self
  · exact ht text names h

theorem addFile_eq_foldl (index : DuplicateIndex) (file content : String) :
    index.addFile file content =
      (rules content).foldl (fun index rule => index.insert file rule) index := by
  unfold addFile
  rw [← map_rule_entries, List.foldl_map]

theorem notes_foldl_insert {index : DuplicateIndex} {file other text : String}
    (rules : List String) :
    (rules.foldl (fun index rule => index.insert file rule) index).Notes other text ↔
      (other = file ∧ text ∈ rules) ∨ index.Notes other text := by
  induction rules generalizing index with
  | nil => simp
  | cons rule rules ih =>
    rw [List.foldl_cons, ih, notes_insert, List.mem_cons]
    tauto

theorem notes_addFile {index : DuplicateIndex} {file content other text : String} :
    (index.addFile file content).Notes other text ↔
      (other = file ∧ text ∈ rules content) ∨ index.Notes other text := by
  rw [addFile_eq_foldl]
  exact notes_foldl_insert _

theorem tight_addFile {index : DuplicateIndex} (ht : index.Tight) (file content : String) :
    (index.addFile file content).Tight := by
  unfold addFile
  induction entries content generalizing index with
  | nil => exact ht
  | cons e es ih => exact ih (tight_insert ht file e.rule)

theorem addAll_snd (index : DuplicateIndex) (calls : List (String × String)) :
    (index.addAll calls).2 = calls.foldl (fun index c => index.addFile c.1 c.2) index := by
  induction calls generalizing index with
  | nil => rfl
  | cons c calls ih => exact ih _

theorem addAll_fst (index : DuplicateIndex) (calls : List (String × String)) :
    (index.addAll calls).1 = calls.map fun c => repeatedDiagnostic? c.1 c.2 := by
  induction calls generalizing index with
  | nil => rfl
  | cons c calls ih => exact congrArg _ (ih _)

theorem notes_addAll {index : DuplicateIndex} {calls : List (String × String)}
    {file rule : String} :
    (index.addAll calls).2.Notes file rule ↔ Held calls file rule ∨ index.Notes file rule := by
  unfold Held
  induction calls generalizing index with
  | nil => simp [addAll]
  | cons c calls ih =>
    obtain ⟨f, content⟩ := c
    show ((index.addFile f content).addAll calls).2.Notes file rule ↔ _
    rw [ih, notes_addFile]
    constructor
    · rintro (⟨s, hs, hr⟩ | ⟨rfl, hr⟩ | h)
      · exact .inl ⟨s, List.mem_cons_of_mem _ hs, hr⟩
      · exact .inl ⟨content, List.mem_cons_self, hr⟩
      · exact .inr h
    · rintro (⟨s, hs, hr⟩ | h)
      · rcases List.mem_cons.mp hs with he | hs
        · obtain ⟨rfl, rfl⟩ := Prod.mk.inj he
          exact .inr (.inl ⟨rfl, hr⟩)
        · exact .inl ⟨s, hs, hr⟩
      · exact .inr (.inr h)

theorem tight_addAll {index : DuplicateIndex} (ht : index.Tight) (calls : List (String × String)) :
    (index.addAll calls).2.Tight := by
  induction calls generalizing index with
  | nil => exact ht
  | cons c calls ih => exact ih (tight_addFile ht c.1 c.2)

/-- A tight index is its relation. -/
theorem eq_of_notes {index other : DuplicateIndex} (ht : index.Tight) (ht' : other.Tight)
    (h : ∀ file rule, index.Notes file rule ↔ other.Notes file rule) : index = other := by
  obtain ⟨m⟩ := index
  obtain ⟨m'⟩ := other
  congr 1
  apply Std.ExtTreeMap.ext_getElem?
  intro rule
  have hrule (file : String) : (∃ names, m[rule]? = some names ∧ file ∈ names) ↔
      ∃ names, m'[rule]? = some names ∧ file ∈ names := h file rule
  cases hm : m[rule]? with
  | none =>
    cases hm' : m'[rule]? with
    | none => rfl
    | some names' =>
      obtain ⟨file, hf⟩ := ht' rule names' hm'
      simpa [hm] using (hrule file).mpr ⟨names', hm', hf⟩
  | some names =>
    cases hm' : m'[rule]? with
    | none =>
      obtain ⟨file, hf⟩ := ht rule names hm
      simpa [hm'] using (hrule file).mp ⟨names, hm, hf⟩
    | some names' =>
      congr 1
      apply Std.ExtTreeSet.ext_mem
      intro file
      simpa [hm, hm'] using hrule file

theorem mem_duplicates {index : DuplicateIndex} {rule : String} {names : List String} :
    (rule, names) ∈ index.duplicates ↔
      ∃ set, index.files[rule]? = some set ∧ 2 ≤ set.size ∧ set.toList = names := by
  unfold duplicates
  rw [List.mem_filterMap]
  constructor
  · rintro ⟨⟨r, set⟩, hm, h⟩
    dsimp only at h
    split_ifs at h with hs
    obtain ⟨rfl, rfl⟩ := Prod.mk.inj (Option.some.inj h)
    exact ⟨set, Std.ExtTreeMap.mem_toList_iff_getElem?_eq_some.mp hm, hs, rfl⟩
  · rintro ⟨set, hr, hs, rfl⟩
    exact ⟨(rule, set), Std.ExtTreeMap.mem_toList_iff_getElem?_eq_some.mpr hr, if_pos hs⟩

theorem toList_sorted (set : Std.ExtTreeSet String) : set.toList.Pairwise fun f g =>
    utf8 f < utf8 g :=
  set.ordered_toList.imp compare_eq_lt_iff.mp

theorem two_le_size_iff {set : Std.ExtTreeSet String} :
    2 ≤ set.size ↔ ∃ f ∈ set, ∃ g ∈ set, f ≠ g := by
  have hn : set.toList.Nodup := set.distinct_toList.imp Std.ReflCmp.ne_of_cmp_ne_eq
  rw [← Std.ExtTreeSet.length_toList, two_le_length_iff hn]
  simp only [Std.ExtTreeSet.mem_toList]

theorem mem_duplicates_iff_notes {index : DuplicateIndex} {rule : String} {names : List String} :
    (rule, names) ∈ index.duplicates ↔
      (∃ f g, f ≠ g ∧ index.Notes f rule ∧ index.Notes g rule) ∧
        names.Pairwise (fun f g => utf8 f < utf8 g) ∧ ∀ file, file ∈ names ↔
          index.Notes file rule := by
  rw [mem_duplicates]
  constructor
  · rintro ⟨set, hr, hs, rfl⟩
    obtain ⟨f, hf, g, hg, hfg⟩ := two_le_size_iff.mp hs
    refine ⟨⟨f, g, hfg, ⟨set, hr, hf⟩, ⟨set, hr, hg⟩⟩, toList_sorted set, fun file => ?_⟩
    simp [Notes, hr]
  · rintro ⟨⟨f, g, hfg, ⟨set, hr, hf⟩, hg⟩, hs, hm⟩
    have notes (file : String) : index.Notes file rule ↔ file ∈ set := by simp [Notes, hr]
    refine ⟨set, hr, two_le_size_iff.mpr ⟨f, hf, g, (notes g).mp hg, hfg⟩, ?_⟩
    -- Two sorted lists with the same names are one list.
    have : Std.Irrefl fun f g : String => utf8 f < utf8 g := ⟨fun f => List.lt_irrefl _⟩
    have : Std.Antisymm fun f g : String => utf8 f < utf8 g :=
      ⟨fun f g h h' => (List.lt_asymm h h').elim⟩
    apply (toList_sorted set).eq_of_mem_iff hs
    intro file
    rw [hm, notes, Std.ExtTreeSet.mem_toList]

theorem duplicates_sorted (index : DuplicateIndex) :
    index.duplicates.Pairwise fun a b => utf8 a.1 < utf8 b.1 := by
  unfold duplicates
  rw [List.pairwise_filterMap]
  apply index.files.ordered_keys_toList.imp
  rintro ⟨r, set⟩ ⟨r', set'⟩ h d hd d' hd'
  dsimp only at hd hd'
  split_ifs at hd hd'
  rw [← Option.some.inj hd, ← Option.some.inj hd']
  exact compare_eq_lt_iff.mp h

/-- A tight index has as many entries as there are rules in it. -/
theorem size_eq_ncard {index : DuplicateIndex} (ht : index.Tight) :
    index.size = {rule | ∃ file, index.Notes file rule}.ncard := by
  have hkeys : {rule | ∃ file, index.Notes file rule} = ↑index.files.keys.toFinset := by
    ext rule
    rw [Set.mem_ofPred_eq, List.coe_toFinset, Set.mem_ofPred_eq, Std.ExtTreeMap.mem_keys,
      Std.ExtTreeMap.mem_iff_isSome_getElem?]
    constructor
    · rintro ⟨file, names, hr, -⟩
      rw [hr]
      rfl
    · intro h
      -- A key without files would be counted though no file holds it.
      obtain ⟨names, hr⟩ := Option.isSome_iff_exists.mp h
      obtain ⟨file, hf⟩ := ht rule names hr
      exact ⟨file, names, hr, hf⟩
  rw [hkeys, Set.ncard_coe_finset, List.toFinset_card_of_nodup Std.ExtTreeMap.nodup_keys,
    Std.ExtTreeMap.length_keys]
  rfl

theorem report?_eq_none_iff {index : DuplicateIndex} :
    index.report? = none ↔ index.duplicates = [] := by
  unfold report?
  cases index.duplicates <;> simp

theorem not_notes_empty (file rule : String) : ¬ empty.Notes file rule := by
  simp [Notes, empty]

theorem tight_empty : empty.Tight := by
  simp [Tight, empty]

theorem notes_addAll_empty {calls : List (String × String)} {file rule : String} :
    (empty.addAll calls).2.Notes file rule ↔ Held calls file rule := by
  rw [notes_addAll]
  simp only [not_notes_empty, or_false]

/-- The index tells of calls which rules are in contents of at least two files, sorted and with all
their files, sorted; it counts the rules that have been seen; and it has a report unless there are
no duplicates. -/
structure Tells (index : DuplicateIndex) (calls : List (String × String)) : Prop where
  duplicates : ∀ rule names, (rule, names) ∈ index.duplicates ↔
    (∃ f g, f ≠ g ∧ Held calls f rule ∧ Held calls g rule) ∧
      names.Pairwise (fun f g => utf8 f < utf8 g) ∧ ∀ file, file ∈ names ↔ Held calls file rule
  sorted : index.duplicates.Pairwise fun a b => utf8 a.1 < utf8 b.1
  size : index.size = {rule | ∃ file, Held calls file rule}.ncard
  report : index.report? = none ↔ index.duplicates = []

theorem tells_addAll_empty (calls : List (String × String)) :
    (empty.addAll calls).2.Tells calls := by
  have notes (file rule : String) : (empty.addAll calls).2.Notes file rule ↔ Held calls file rule :=
    notes_addAll_empty
  have tight : (empty.addAll calls).2.Tight := tight_addAll tight_empty calls
  refine ⟨fun rule names => ?_, duplicates_sorted _, ?_, report?_eq_none_iff⟩
  · simpa only [notes] using @mem_duplicates_iff_notes (empty.addAll calls).2 rule names
  · simpa only [notes] using size_eq_ncard tight

/-- After any calls of `add` the index tells what they have added, and each call has said what it
says about its file alone. Neither the order of the calls nor making one of them again makes a
difference to the index. -/
theorem addAll_empty (calls : List (String × String)) :
    (empty.addAll calls).2.Tells calls ∧
    (empty.addAll calls).1 = calls.map (fun c => repeatedDiagnostic? c.1 c.2) ∧
    ∀ others : List (String × String), (∀ c, c ∈ others ↔ c ∈ calls) →
      (empty.addAll others).2 = (empty.addAll calls).2 := by
  refine ⟨tells_addAll_empty calls, addAll_fst _ _, fun others h => ?_⟩
  apply eq_of_notes (tight_addAll tight_empty others) (tight_addAll tight_empty calls)
  intro file rule
  rw [notes_addAll_empty, notes_addAll_empty]
  exact exists_congr fun content => and_congr_left' (h (file, content))

end DuplicateIndex

end RuleLint.Rule
