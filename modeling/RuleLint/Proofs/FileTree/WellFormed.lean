import Mathlib.Data.List.Nodup
import RuleLint.FileTree.Listing
import RuleLint.Proofs.Path

namespace RuleLint

open RuleLint.Path

namespace Node

variable {n new : Node} {name : String} {names : List String} {entries : List (String × Node)}

theorem at?_append (n : Node) (front names : List String) :
    n.at? (front ++ names) = (n.at? front).bind (·.at? names) := by
  induction front generalizing n with
  | nil => rfl
  | cons name front ih =>
    show (n.entry? name).bind (·.at? (front ++ names)) =
      ((n.entry? name).bind (·.at? front)).bind (·.at? names)
    rw [Option.bind_assoc]
    exact Option.bind_congr fun m _ => ih m

theorem at?_directory_cons (entries : List (String × Node)) (name : String) (names : List String) :
    (directory entries).at? (name :: names) = (entries.lookup name).bind (·.at? names) := rfl

theorem kind_of_at?_ne_nil {m : Node} (h : n.at? names = some m) (hne : names ≠ []) :
    n.kind = .directory := by
  obtain ⟨name, names, rfl⟩ := List.exists_cons_of_ne_nil hne
  cases n with
  | file | link => contradiction
  | directory => rfl

/-- Directories, at and below a node, have different entries with valid names. -/
inductive WellFormed : Node → Prop
  | file (content : ByteArray) : WellFormed (.file content)
  | link (target : String) : WellFormed (.link target)
  | directory {entries : List (String × Node)} (different : (entries.map Prod.fst).Nodup)
      (valid : ∀ name ∈ entries.map Prod.fst, ValidName name)
      (below : ∀ n ∈ entries.map Prod.snd, WellFormed n) : WellFormed (.directory entries)

theorem wellFormed_empty : WellFormed (.directory []) := .directory List.nodup_nil nofun nofun

theorem mem_of_lookup (h : entries.lookup name = some n) : (name, n) ∈ entries := by
  obtain ⟨front, back, hentries, -⟩ := List.lookup_eq_some_iff.mp h
  rw [hentries]
  exact List.mem_append_right front List.mem_cons_self

theorem lookup_of_mem (different : (entries.map Prod.fst).Nodup) (h : (name, n) ∈ entries) :
    entries.lookup name = some n := by
  induction entries with
  | nil => contradiction
  | cons e entries ih =>
    obtain ⟨other, m⟩ := e
    obtain ⟨hother, hrest⟩ := List.nodup_cons.mp different
    rcases List.mem_cons.mp h with heq | htail
    · obtain ⟨rfl, rfl⟩ := Prod.mk.inj heq
      exact List.lookup_cons_self
    · have hne : name ≠ other := by
        rintro rfl
        exact hother (List.mem_map.mpr ⟨_, htail, rfl⟩)
      rw [List.lookup_cons, beq_false_of_ne hne]
      exact ih hrest htail

theorem WellFormed.at? (h : n.WellFormed) {m : Node} (hm : n.at? names = some m) :
    m.WellFormed := by
  induction names generalizing n with
  | nil =>
    obtain rfl := Option.some.inj hm
    exact h
  | cons name names ih =>
    obtain ⟨e, he, hbelow⟩ := Option.bind_eq_some_iff.mp hm
    cases h with
    | file | link => contradiction
    | directory _ _ below => exact ih (below e (List.mem_map_of_mem (mem_of_lookup he))) hbelow

theorem WellFormed.valid_at? (h : n.WellFormed) {m : Node} (hm : n.at? names = some m) :
    ∀ name ∈ names, ValidName name := by
  induction names generalizing n with
  | nil => exact nofun
  | cons name names ih =>
    obtain ⟨e, he, hbelow⟩ := Option.bind_eq_some_iff.mp hm
    cases h with
    | file | link => contradiction
    | directory _ valid below =>
      have hentry := mem_of_lookup he
      exact List.forall_mem_cons.mpr
        ⟨valid _ (List.mem_map_of_mem hentry), ih (below e (List.mem_map_of_mem hentry)) hbelow⟩

theorem mem_setEntry {e : String × Node} (h : e ∈ setEntry name n entries) :
    e = (name, n) ∨ e ∈ entries := by
  induction entries with
  | nil => exact .inl (List.mem_singleton.mp h)
  | cons other entries ih =>
    unfold setEntry at h
    split at h
    · exact (List.mem_cons.mp h).imp_right (List.mem_cons_of_mem _)
    · rcases List.mem_cons.mp h with rfl | h
      · exact .inr List.mem_cons_self
      · exact (ih h).imp_right (List.mem_cons_of_mem _)

theorem nodup_setEntry (h : (entries.map Prod.fst).Nodup) :
    ((setEntry name n entries).map Prod.fst).Nodup := by
  induction entries with
  | nil => exact List.nodup_singleton name
  | cons other entries ih =>
    obtain ⟨hother, hrest⟩ := List.nodup_cons.mp h
    unfold setEntry
    split
    · rename_i he
      rw [he] at hother
      exact List.nodup_cons.mpr ⟨hother, hrest⟩
    · rename_i hne
      refine List.nodup_cons.mpr ⟨fun hm => ?_, ih hrest⟩
      obtain ⟨e, he, heq⟩ := List.mem_map.mp hm
      rcases mem_setEntry he with rfl | he
      · exact hne heq.symm
      · exact hother (heq ▸ List.mem_map_of_mem he)

theorem wellFormed_setEntry (hname : ValidName name) (hn : n.WellFormed)
    (h : WellFormed (.directory entries)) :
    WellFormed (.directory (setEntry name n entries)) := by
  cases h with
  | directory different valid below =>
    refine .directory (nodup_setEntry different) ?_ ?_
    · intro other hm
      obtain ⟨e, he, rfl⟩ := List.mem_map.mp hm
      rcases mem_setEntry he with rfl | he
      · exact hname
      · exact valid _ (List.mem_map_of_mem he)
    · intro m hm
      obtain ⟨e, he, rfl⟩ := List.mem_map.mp hm
      rcases mem_setEntry he with rfl | he
      · exact hn
      · exact below _ (List.mem_map_of_mem he)

/-- Putting a node into a tree keeps the tree well formed. -/
theorem WellFormed.insert (hnew : new.WellFormed) (hnames : ∀ name ∈ names, ValidName name)
    (h : n.WellFormed) :
    (new.insert names n).WellFormed := by
  induction names generalizing n with
  | nil =>
    unfold Node.insert
    split
    · exact h
    · exact hnew
  | cons name names ih =>
    have hname := hnames name List.mem_cons_self
    have hbelow {m : Node} (hm : m.WellFormed) : (new.insert names m).WellFormed :=
      ih (fun other ho => hnames other (List.mem_cons_of_mem _ ho)) hm
    cases h with
    | file | link => exact wellFormed_setEntry hname (hbelow wellFormed_empty) wellFormed_empty
    | @directory entries different valid below =>
      refine wellFormed_setEntry hname (hbelow ?_) (.directory different valid below)
      cases hl : entries.lookup name with
      | none => exact wellFormed_empty
      | some m => exact below m (List.mem_map_of_mem (mem_of_lookup hl))

end Node

namespace FileTree

theorem wellFormed_of_node? {tree : FileTree} {p : Path} (htree : tree.top.WellFormed) {n : Node}
    (h : tree.node? p = some n) : n.WellFormed := by
  unfold node? at h
  split at h
  · exact htree.at? h
  · contradiction

end FileTree

end RuleLint
