import RuleLint.Proofs.FileTree.Following

namespace RuleLint

namespace Node

def bare : Node → Node
  | .directory _ => .directory []
  | n => n

/-- The same names lead to the same files, links and directories; only the order of entries may
differ. -/
def Agrees (n m : Node) : Prop := ∀ names, (n.at? names).map bare = (m.at? names).map bare

variable {n m : Node} {names : List String}

theorem kind_bare (n : Node) : n.bare.kind = n.kind := by cases n <;> rfl

/-- Entries of a directory may be listed in any order. -/
theorem agrees_of_perm {entries entries' : List (String × Node)}
    (different : (entries.map Prod.fst).Nodup) (h : entries.Perm entries') :
    (directory entries).Agrees (directory entries') := by
  intro names
  cases names with
  | nil => rfl
  | cons name names =>
    have hlookup : entries.lookup name = entries'.lookup name := by
      have different' : (entries'.map Prod.fst).Nodup := (h.map _).nodup_iff.mp different
      ext n
      constructor
      · exact fun hn => lookup_of_mem different' (h.mem_iff.mp (mem_of_lookup hn))
      · exact fun hn => lookup_of_mem different (h.mem_iff.mpr (mem_of_lookup hn))
    rw [at?_directory_cons, at?_directory_cons, hlookup]

namespace Agrees

theorem symm (h : n.Agrees m) : m.Agrees n := fun names => (h names).symm

theorem map_kind_at? (h : n.Agrees m) (names : List String) :
    (n.at? names).map kind = (m.at? names).map kind := by
  have hkind := congrArg (Option.map kind) (h names)
  simpa only [Option.map_map, Function.comp_def, kind_bare] using hkind

theorem at? (h : n.Agrees m) {below : Node} (hn : n.at? names = some below) :
    ∃ below', m.at? names = some below' ∧ below.Agrees below' := by
  have hnames := h names
  rw [hn] at hnames
  obtain ⟨below', hm, -⟩ := Option.map_eq_some_iff.mp hnames.symm
  refine ⟨below', hm, fun more => ?_⟩
  have hmore := h (names ++ more)
  rwa [at?_append, at?_append, hn, hm] at hmore

end Agrees

end Node

namespace FileTree

variable {top top' : Node}

theorem enter_bare (links : Nat) (here : List String) (name : String) (entry : Option Node) :
    enter links here name (entry.map Node.bare) = enter links here name entry := by
  cases entry with
  | none => rfl
  | some n => cases n <;> rfl

theorem step_congr (h : top.Agrees top') (links : Nat) (here : List String) (s : List Char) :
    step top links here s = step top' links here s := by
  unfold step
  have hentry : enter links here (.ofList s) (top.at? (here ++ [.ofList s])) =
      enter links here (.ofList s) (top'.at? (here ++ [.ofList s])) := by
    rw [← enter_bare, h, enter_bare]
  rw [h.map_kind_at? here, hentry]

theorem follow_congr (h : top.Agrees top') (links : Nat) (here : List String)
    (segments : List (List Char)) :
    follow top links here segments = follow top' links here segments := by
  induction links, here, segments using follow_induction top with
  | nil => rw [follow_nil, follow_nil]
  | cons links here s rest ih =>
    rw [follow_cons, follow_cons, ← step_congr h]
    cases hstep : step top links here s with
    | error => rfl
    | ok turn =>
      obtain ⟨left, there, front⟩ := turn
      exact ih left there front hstep

theorem locate_congr {tree tree' : FileTree} (htop : tree.top.Agrees tree'.top)
    (hcwd : tree.cwd = tree'.cwd) (p : Path) : tree.locate p = tree'.locate p := by
  unfold locate
  rw [hcwd, follow_congr htop]

theorem node?_congr {tree tree' : FileTree} (htop : tree.top.Agrees tree'.top)
    (hcwd : tree.cwd = tree'.cwd) {p : Path} {n : Node} (hn : tree.node? p = some n) :
    ∃ n', tree'.node? p = some n' ∧ n.Agrees n' := by
  unfold node? at hn ⊢
  rw [← locate_congr htop hcwd]
  cases hl : tree.locate p with
  | error =>
    rw [hl] at hn
    contradiction
  | ok names =>
    rw [hl] at hn
    exact htop.at? hn

end FileTree

end RuleLint
