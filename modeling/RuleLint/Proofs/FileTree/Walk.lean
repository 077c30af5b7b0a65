import Mathlib.Data.List.Nodup
import RuleLint.FileTree.Listing
import RuleLint.Proofs.FileTree.WellFormed

namespace RuleLint.Node

open RuleLint.Path

variable {n : Node} {name : String} {names : List String} {entries : List (String × Node)}
    {kind : Kind}

def directoryNames (kind : Kind) (names : List String) : List String :=
  if kind = .directory then names else names.dropLast

theorem directoryNames_cons (kind : Kind) (name : String) (hne : names ≠ []) :
    directoryNames kind (name :: names) = name :: directoryNames kind names := by
  unfold directoryNames
  split_ifs
  · rfl
  · exact List.dropLast_cons_of_ne_nil hne

theorem forall_directoryNames_singleton_iff :
    (∀ other ∈ directoryNames n.kind [name], isSkipped other = false) ↔
      isPassedOver name n = false := by
  unfold directoryNames isPassedOver
  by_cases h : n.kind = .directory <;> simp [h]

def walkEntry (e : String × Node) : List (List String × Kind) :=
  if isPassedOver e.1 e.2 then []
  else ([e.1], e.2.kind) :: e.2.walk.map fun (names, kind) => (e.1 :: names, kind)

theorem walk_directory (entries : List (String × Node)) :
    walk (.directory entries) = entries.flatMap walkEntry := by
  show walkEntries entries = _
  induction entries with
  | nil => rfl
  | cons e entries ih =>
    rw [walkEntries, ih, List.flatMap_cons]
    rfl

theorem mem_walkEntry_iff {e : String × Node} :
    (names, kind) ∈ walkEntry e ↔ isPassedOver e.1 e.2 = false ∧
      (names = [e.1] ∧ kind = e.2.kind ∨ ∃ below, names = e.1 :: below ∧
        (below, kind) ∈ e.2.walk) := by
  unfold walkEntry
  cases isPassedOver e.1 e.2 with
  | true => simp
  | false => simp [eq_comm, and_comm]

theorem head?_of_mem_walkEntry {e : String × Node} (h : (names, kind) ∈ walkEntry e) :
    names.head? = some e.1 := by
  rcases (mem_walkEntry_iff.mp h).2 with ⟨rfl, -⟩ | ⟨_, rfl, -⟩
  · rfl
  · rfl

theorem ne_nil_of_mem_walk (h : (names, kind) ∈ n.walk) : names ≠ [] := by
  cases n with
  | file | link => contradiction
  | directory entries =>
    rw [walk_directory] at h
    obtain ⟨e, -, he⟩ := List.mem_flatMap.mp h
    rintro rfl
    exact nomatch head?_of_mem_walkEntry he

/-- A walk comes to what names lead to without passing through a directory that is skipped. -/
theorem WellFormed.mem_walk_iff (h : n.WellFormed) :
    (names, kind) ∈ n.walk ↔
      names ≠ [] ∧ (n.at? names).map Node.kind = some kind ∧
        ∀ name ∈ directoryNames kind names, isSkipped name = false := by
  induction h generalizing names with
  | file | link =>
    refine iff_of_false nofun ?_
    rintro ⟨hne, hat, -⟩
    obtain ⟨name, names, rfl⟩ := List.exists_cons_of_ne_nil hne
    contradiction
  | @directory entries different _ _ ih =>
    have hbelow {name : String} {n : Node} (hm : (name, n) ∈ entries) : n ∈ entries.map Prod.snd :=
      List.mem_map.mpr ⟨_, hm, rfl⟩
    rw [walk_directory, List.mem_flatMap]
    constructor
    · rintro ⟨⟨name, n⟩, hm, hentry⟩
      obtain ⟨hopen, ⟨rfl, rfl⟩ | ⟨below, rfl, hwalk⟩⟩ := mem_walkEntry_iff.mp hentry
      · rw [at?_directory_cons, lookup_of_mem different hm]
        exact ⟨List.cons_ne_nil _ _, rfl, forall_directoryNames_singleton_iff.mpr hopen⟩
      · obtain ⟨hne, hat, hnames⟩ := (ih n (hbelow hm)).mp hwalk
        obtain ⟨m, hm', hkind⟩ := Option.map_eq_some_iff.mp hat
        have hskip : isSkipped name = false := by
          simpa [isPassedOver, kind_of_at?_ne_nil hm' hne] using hopen
        rw [at?_directory_cons, lookup_of_mem different hm, directoryNames_cons kind name hne]
        exact ⟨List.cons_ne_nil _ _, hat, List.forall_mem_cons.mpr ⟨hskip, hnames⟩⟩
    · rintro ⟨hne, hat, hnames⟩
      obtain ⟨name, below, rfl⟩ := List.exists_cons_of_ne_nil hne
      rw [at?_directory_cons] at hat
      obtain ⟨m, hm, hkind⟩ := Option.map_eq_some_iff.mp hat
      obtain ⟨n, hlookup, hn⟩ := Option.bind_eq_some_iff.mp hm
      have hentry := mem_of_lookup hlookup
      refine ⟨(name, n), hentry, mem_walkEntry_iff.mpr ?_⟩
      by_cases hb : below = []
      · subst hb
        obtain rfl := Option.some.inj hn
        subst hkind
        exact ⟨forall_directoryNames_singleton_iff.mp hnames, .inl ⟨rfl, rfl⟩⟩
      · rw [directoryNames_cons kind name hb] at hnames
        obtain ⟨hskip, hrest⟩ := List.forall_mem_cons.mp hnames
        refine ⟨by simp [isPassedOver, hskip], .inr ⟨below, rfl, ?_⟩⟩
        exact (ih n (hbelow hentry)).mpr ⟨hb, by rw [hn, ← hkind]; rfl, hrest⟩

theorem nodup_walkEntry {e : String × Node} (h : (e.2.walk.map Prod.fst).Nodup) :
    ((walkEntry e).map Prod.fst).Nodup := by
  unfold walkEntry
  split_ifs
  · exact List.nodup_nil
  · have hnames : ((e.2.walk.map fun (names, kind) => (e.1 :: names, kind)).map Prod.fst) =
        (e.2.walk.map Prod.fst).map (e.1 :: ·) := by
      rw [List.map_map, List.map_map]
      rfl
    rw [List.map_cons, hnames, List.nodup_cons]
    constructor
    · intro hm
      obtain ⟨_, hbelow, heq⟩ := List.mem_map.mp hm
      obtain ⟨⟨_, kind⟩, hwalk, rfl⟩ := List.mem_map.mp hbelow
      exact ne_nil_of_mem_walk hwalk (List.cons.inj heq).2
    · exact h.map fun _ _ heq => (List.cons.inj heq).2

/-- A walk comes to no place twice. -/
theorem WellFormed.nodup_walk (h : n.WellFormed) : (n.walk.map Prod.fst).Nodup := by
  induction h with
  | file | link => exact List.nodup_nil
  | @directory entries different _ _ ih =>
    rw [walk_directory, List.map_flatMap, List.nodup_flatMap]
    constructor
    · intro e he
      exact nodup_walkEntry (ih e.2 (List.mem_map_of_mem he))
    · -- What is come to at different entries differs in the first name.
      have hhead {e : String × Node} {names : List String}
          (hm : names ∈ (walkEntry e).map Prod.fst) :
          names.head? = some e.1 := by
        obtain ⟨⟨_, kind⟩, hwalk, rfl⟩ := List.mem_map.mp hm
        exact head?_of_mem_walkEntry hwalk
      apply (List.pairwise_map.mp different).imp
      intro e e' hne names hm hm'
      exact hne (Option.some.inj ((hhead hm).symm.trans (hhead hm')))

theorem WellFormed.valid_walk (h : n.WellFormed) (hm : (names, kind) ∈ n.walk) :
    ∀ name ∈ names, ValidName name := by
  obtain ⟨m, hat, -⟩ := Option.map_eq_some_iff.mp (h.mem_walk_iff.mp hm).2.1
  exact h.valid_at? hat

end RuleLint.Node
