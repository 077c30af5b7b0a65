import RuleLint.FileTree.Listing
import RuleLint.Proofs.FileTree.Following
import RuleLint.Proofs.Path.Ancestors

namespace RuleLint.FileTree

open RuleLint.Path Text

variable {tree : FileTree} {starts : List Path} {config start dir : Path}

def HasConfig (tree : FileTree) (config dir : Path) : Prop := tree.isFile (dir.join config) = true

def LacksConfig (tree : FileTree) (config start : Path) : Prop :=
  ∀ k dir, Climbs k start dir → ¬ tree.HasConfig config dir

/-- On the way up from a start the configuration is come to at `dir`, and nowhere before. -/
def NearestConfig (tree : FileTree) (config start dir : Path) : Prop :=
  ∃ k, Climbs k start dir ∧ tree.HasConfig config dir ∧
    ∀ j other, j < k → Climbs j start other → ¬ tree.HasConfig config other

theorem find?_ancestors_eq_some_iff :
    (start.ancestors.find? fun dir => tree.isFile (dir.join config)) = some dir ↔
      tree.NearestConfig config start dir := by
  rw [List.find?_eq_some_iff_getElem, and_comm]
  constructor
  · rintro ⟨⟨k, hk, hdir, hbefore⟩, hconfig⟩
    refine ⟨k, getElem?_ancestors.mp (List.getElem?_eq_some_iff.mpr ⟨hk, hdir⟩), hconfig, ?_⟩
    intro j other hj hclimbs
    obtain ⟨hlength, rfl⟩ := List.getElem?_eq_some_iff.mp (getElem?_ancestors.mpr hclimbs)
    simpa [HasConfig] using hbefore j hj
  · rintro ⟨k, hclimbs, hconfig, hbefore⟩
    obtain ⟨hk, hdir⟩ := List.getElem?_eq_some_iff.mp (getElem?_ancestors.mpr hclimbs)
    refine ⟨⟨k, hk, hdir, ?_⟩, hconfig⟩
    intro j hj
    have hlacks :=
      hbefore j _ hj (getElem?_ancestors.mp (List.getElem?_eq_getElem (Nat.lt_trans hj hk)))
    simpa [HasConfig] using hlacks

theorem find?_ancestors_eq_none_iff :
    (start.ancestors.find? fun dir => tree.isFile (dir.join config)) = none ↔
      tree.LacksConfig config start := by
  rw [List.find?_eq_none]
  simp only [mem_ancestors]
  exact ⟨fun h k dir hclimbs => h dir ⟨k, hclimbs⟩, fun h dir ⟨k, hclimbs⟩ => h k dir hclimbs⟩

theorem findRoot_eq_some_iff :
    tree.findRoot starts config = some dir ↔
      ∃ before start after, starts = before ++ start :: after ∧
        tree.NearestConfig config start dir ∧ ∀ other ∈ before, tree.LacksConfig config other := by
  unfold findRoot
  simp only [List.findSome?_eq_some_iff, find?_ancestors_eq_some_iff, find?_ancestors_eq_none_iff]

theorem findRoot_eq_none_iff :
    tree.findRoot starts config = none ↔ ∀ start ∈ starts, tree.LacksConfig config start := by
  unfold findRoot
  simp only [List.findSome?_eq_none_iff, find?_ancestors_eq_none_iff]

theorem findRoot_singleton (h : tree.HasConfig config dir) :
    tree.findRoot [dir] config = some dir :=
  findRoot_eq_some_iff.mpr ⟨[], dir, [], rfl, ⟨0, .here dir, h, nofun⟩, nofun⟩

theorem hasConfig_of_findRoot (h : tree.findRoot starts config = some dir) :
    tree.HasConfig config dir := by
  obtain ⟨_, _, _, -, ⟨_, -, hconfig, -⟩, -⟩ := findRoot_eq_some_iff.mp h
  exact hconfig

theorem isSome_findRoot_iff :
    (tree.findRoot starts config).isSome = true ↔
      ∃ start ∈ starts, ∃ k dir, Climbs k start dir ∧ tree.HasConfig config dir := by
  rw [Option.isSome_iff_ne_none, Ne, findRoot_eq_none_iff]
  simp only [LacksConfig, not_forall, not_not, exists_prop]

/-- A root is found exactly if some start or one of its ancestors, which end with the empty path if
the start is relative, has the configuration. It is the nearest one to the first start that has one,
and it is found again from itself. -/
theorem findRoot_nearest (tree : FileTree) (starts : List Path) (config : Path) :
    ((tree.findRoot starts config).isSome = true ↔
      ∃ start ∈ starts, ∃ k dir, Climbs k start dir ∧ tree.HasConfig config dir) ∧
    (∀ start ∈ starts, ∃ k top, Climbs k start top ∧ (∀ above : Path, ¬ above.IsParent top) ∧
      (start.isAbsolute = false → top = ⟨""⟩) ∧
      (start.isAbsolute = true → top.components = [.root])) ∧
    ∀ dir, (tree.findRoot starts config = some dir ↔
        ∃ before start after, starts = before ++ start :: after ∧
          tree.NearestConfig config start dir ∧ ∀ other ∈ before, tree.LacksConfig config other) ∧
      (tree.findRoot starts config = some dir → tree.findRoot [dir] config = some dir) := by
  refine ⟨isSome_findRoot_iff, fun start _ => exists_climbs_top start,
    fun dir => ⟨findRoot_eq_some_iff, fun h => ?_⟩⟩
  exact findRoot_singleton (hasConfig_of_findRoot h)

def twoProjects : FileTree where
  top := .directory [("p", .directory [("c.ini", .file .empty), ("q", .directory [])]),
    ("s", .directory [("c.ini", .file .empty)])]
  cwd := []

/-- An ancestor of an earlier start comes before a later start. -/
theorem findRoot_twoProjects :
    twoProjects.findRoot [⟨"n"⟩, ⟨"/p/q"⟩, ⟨"/s"⟩] ⟨"c.ini"⟩ = some ⟨"/p"⟩ ∧
      twoProjects.findRoot [⟨"/p"⟩] ⟨"c.ini"⟩ = some ⟨"/p"⟩ ∧
      ∃ before start after, ([⟨"n"⟩, ⟨"/p/q"⟩, ⟨"/s"⟩] : List Path) = before ++ start :: after ∧
        twoProjects.NearestConfig ⟨"c.ini"⟩ start ⟨"/p"⟩ ∧
        ∀ other ∈ before, twoProjects.LacksConfig ⟨"c.ini"⟩ other := by
  have hrelative : Path.ancestors ⟨"n"⟩ = [⟨"n"⟩, ⟨""⟩] := by decide
  have habsolute : Path.ancestors ⟨"/p/q"⟩ = [⟨"/p/q"⟩, ⟨"/p"⟩, ⟨"/"⟩] := by decide
  have hn : twoProjects.isFile (join ⟨"n"⟩ ⟨"c.ini"⟩) = false := by
    have hfields : fields '/' (join ⟨"n"⟩ ⟨"c.ini"⟩).text.toList = [] ++ "n".toList ::
        ["c.ini".toList] := by decide
    exact isFile_of_step_error hfields (.nil _ _) rfl
  have hempty : twoProjects.isFile (join ⟨""⟩ ⟨"c.ini"⟩) = false := by
    have hfields :
        fields '/' (join ⟨""⟩ ⟨"c.ini"⟩).text.toList = [] ++ "c.ini".toList :: [] := by
      decide
    exact isFile_of_step_error hfields (.nil _ _) rfl
  have hq : twoProjects.isFile (join ⟨"/p/q"⟩ ⟨"c.ini"⟩) = false := by
    have hfields : fields '/' (join ⟨"/p/q"⟩ ⟨"c.ini"⟩).text.toList =
        [[], "p".toList, "q".toList] ++ "c.ini".toList :: [] := by decide
    exact isFile_of_step_error hfields (.cons rfl (.cons rfl (.cons rfl (.nil _ _)))) rfl
  have hp : twoProjects.isFile (join ⟨"/p"⟩ ⟨"c.ini"⟩) = true := by
    have hlocate : twoProjects.locate (join ⟨"/p"⟩ ⟨"c.ini"⟩) = .ok ["p", "c.ini"] :=
      locate_eq_ok_iff.mpr
        ⟨by decide, by decide, by decide, maxLinks, .cons rfl (.cons rfl (.cons rfl (.nil _ _)))⟩
    exact isFile_iff.mpr ⟨_, node?_of_locate hlocate⟩
  have hfound : twoProjects.findRoot [⟨"n"⟩, ⟨"/p/q"⟩, ⟨"/s"⟩] ⟨"c.ini"⟩ = some ⟨"/p"⟩ := by
    simp [findRoot, hrelative, habsolute, hn, hempty, hq, hp]
  obtain ⟨-, -, hnearest⟩ := findRoot_nearest twoProjects [⟨"n"⟩, ⟨"/p/q"⟩, ⟨"/s"⟩] ⟨"c.ini"⟩
  exact ⟨hfound, (hnearest _).2 hfound, (hnearest _).1.mp hfound⟩

/-- The root that is discovered has the configuration if any of the starts or their ancestors has
it. -/
theorem hasConfig_discoverRoot_iff (tree : FileTree) (programDirectory : Option Path)
    (config : Path) :
    tree.HasConfig config (tree.discoverRoot programDirectory config) ↔
      ∃ start ∈ programDirectory.toList ++ [tree.workingDirectory], ∃ k dir,
        Climbs k start dir ∧ tree.HasConfig config dir := by
  rw [← isSome_findRoot_iff]
  unfold discoverRoot
  cases hfound : tree.findRoot (programDirectory.toList ++ [tree.workingDirectory]) config with
  | some dir => exact iff_of_true (hasConfig_of_findRoot hfound) rfl
  | none =>
    have hlacks :=
      findRoot_eq_none_iff.mp hfound tree.workingDirectory
        (List.mem_append_right _ List.mem_cons_self)
    exact iff_of_false (hlacks 0 _ (.here _)) Bool.false_ne_true

end RuleLint.FileTree
