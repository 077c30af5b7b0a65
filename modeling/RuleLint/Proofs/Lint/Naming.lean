import Mathlib.Data.Set.Function
import RuleLint.Proofs.FileTree.Listing
import RuleLint.Proofs.Lint.Run
import RuleLint.Proofs.Rule.Errors

namespace RuleLint

namespace Path

open Std

theorem compareLex_append_left (front cs cs' : List Component) :
    List.compareLex Component.compare (front ++ cs) (front ++ cs') =
      List.compareLex Component.compare cs cs' := by
  induction front with
  | nil => rfl
  | cons c front ih =>
    have hsame : Component.compare c c = .eq := ReflCmp.compare_self
    rw [List.cons_append, List.cons_append, List.compareLex_cons_cons, hsame, ih]
    rfl

end Path

namespace FileTree

open RuleLint.Path Node

variable {tree : FileTree} {root other p : Path} {extension : String}
    {paths others : List Path} {n : Node}
variable {names names' : List String}

theorem before_joinNames (hvalid : ∀ name ∈ names, ValidName name)
    (hvalid' : ∀ name ∈ names', ValidName name) (root other : Path)
    (h : (joinNames root names).Before (joinNames root names')) :
    (joinNames other names).Before (joinNames other names') := by
  unfold Before Path.compare at h ⊢
  rw [components_joinNames hvalid, components_joinNames hvalid', compareLex_append_left] at h ⊢
  exact h

theorem valid_lists (h : n.WellFormed) (hlists : n.Lists extension names) :
    ∀ name ∈ names, ValidName name := by
  obtain ⟨_, hat, -⟩ := Option.map_eq_some_iff.mp hlists.file
  exact h.valid_at? hat

/-- By whatever path a directory is listed, the same names lead to the files that are listed below
it, in the same order. -/
theorem exists_filesWith_eq_map (h : n.WellFormed) (hn : n.kind = .directory) (extension : String) :
    ∃ found : List (List String), (∀ names ∈ found, n.Lists extension names) ∧
      ∀ root, filesWith extension root n = found.map (joinNames root) := by
  -- The names are read off the listing by one path.
  let here : Path := ⟨"."⟩
  have hlisted : ∀ p ∈ filesWith extension here n, ∃ names, n.Lists extension names ∧
      p = joinNames here names :=
    fun p => (mem_filesWith h hn).mp
  choose! namesOf hnamesOf using hlisted
  have hhere : ((filesWith extension here n).map namesOf).map (joinNames here) =
      filesWith extension here n := by
    rw [List.map_map]
    exact (List.map_congr_left fun p hp => (hnamesOf p hp).2.symm).trans (List.map_id _)
  have hfound {names : List String} :
      names ∈ (filesWith extension here n).map namesOf ↔ n.Lists extension names := by
    constructor
    · intro hm
      obtain ⟨p, hp, rfl⟩ := List.mem_map.mp hm
      exact (hnamesOf p hp).1
    · intro hlists
      have hmem : joinNames here names ∈ filesWith extension here n :=
        (mem_filesWith h hn).mpr ⟨names, hlists, rfl⟩
      obtain ⟨hlists', hsame⟩ := hnamesOf _ hmem
      rw [joinNames_inj (valid_lists h hlists) (valid_lists h hlists')
        (congrArg Path.components hsame)]
      exact List.mem_map_of_mem hmem
  refine ⟨_, fun names => hfound.mp, fun root => ?_⟩
  have hsorted : (filesWith extension here n).Pairwise Before := pairwise_before_search h
  rw [← hhere, List.pairwise_map] at hsorted
  apply (pairwise_before_search h).eq_of_mem_iff (List.pairwise_map.mpr (hsorted.imp_of_mem ?_))
  · intro p
    rw [← filesWith, mem_filesWith h hn, List.mem_map]
    simp only [hfound, eq_comm]
  · intro names names' hnames hnames'
    exact before_joinNames (valid_lists h (hfound.mp hnames))
      (valid_lists h (hfound.mp hnames')) here root

theorem map_displayName_eq (htree : tree.top.WellFormed)
    (hsame : tree.node? other = tree.node? root) (h : tree.listFiles root extension = .ok paths)
    (h' : tree.listFiles other extension = .ok others) :
    others.map other.displayName = paths.map root.displayName := by
  obtain ⟨n, hroot, hn, rfl⟩ := exists_node?_of_listFiles h
  obtain ⟨m, hother, -, rfl⟩ := exists_node?_of_listFiles h'
  obtain rfl := Option.some.inj (hother.symm.trans (hsame.trans hroot))
  have hwell := wellFormed_of_node? htree hroot
  obtain ⟨found, hfound, hmap⟩ := exists_filesWith_eq_map hwell hn extension
  have hnames (root : Path) :
      (found.map (joinNames root)).map root.displayName = found.map "/".intercalate := by
    rw [List.map_map]
    exact List.map_congr_left fun names hnames =>
      displayName_joinNames (valid_lists hwell (hfound names hnames)) root
  rw [hmap, hmap, hnames, hnames]

end FileTree

namespace Lint

open RuleLint.Path Rule

variable {tree : FileTree} {root : Path} {extension rule : String} {paths : List Path}
    {files : List Document}

def HoldsRule (tree : FileTree) (rule : String) (p : Path) : Prop :=
  ∃ content, tree.readText p = .ok content ∧ rule ∈ rules content

/-- The index of a run has the names of the listed files that hold a rule. -/
theorem notes_duplicateIndex_iff (hlist : tree.listFiles root extension = .ok paths)
    (hf : ruleFiles tree root extension = .ok files) {name : String} :
    (duplicateIndex files).Notes name rule ↔
      ∃ p ∈ paths, HoldsRule tree rule p ∧ root.displayName p = name := by
  obtain ⟨paths', hlist', hread⟩ := ruleFiles_eq_ok_iff.mp hf
  obtain rfl := Except.ok.inj (hlist.symm.trans hlist')
  rw [notes_duplicateIndex]
  constructor
  · rintro ⟨d, hd, rfl, hrule⟩
    obtain ⟨p, hp, hcontent, hlabel⟩ := exists_mem_of_forall₂ hread.flip hd
    exact ⟨p, hp, ⟨d.content, hcontent, hrule⟩, hlabel.symm⟩
  · rintro ⟨p, hp, ⟨content, hcontent, hrule⟩, rfl⟩
    obtain ⟨d, hd, hcontent', hlabel⟩ := exists_mem_of_forall₂ hread hp
    rw [Except.ok.inj (hcontent.symm.trans hcontent')] at hrule
    exact ⟨d, hd, hlabel, hrule⟩

theorem bijOn_displayName (htree : tree.top.WellFormed)
    (hlist : tree.listFiles root extension = .ok paths)
    (hf : ruleFiles tree root extension = .ok files) (rule : String) :
    Set.BijOn root.displayName {p | p ∈ paths ∧ HoldsRule tree rule p}
      {name | (duplicateIndex files).Notes name rule} := by
  refine ⟨?_, ?_, ?_⟩
  · rintro p ⟨hp, hholds⟩
    exact (notes_duplicateIndex_iff hlist hf).mpr ⟨p, hp, hholds, rfl⟩
  · rintro p ⟨hp, -⟩ q ⟨hq, -⟩ hname
    exact FileTree.eq_of_displayName_eq htree hlist hp hq hname
  · intro name hname
    obtain ⟨p, hp, hholds, hname⟩ := (notes_duplicateIndex_iff hlist hf).mp hname
    exact ⟨p, ⟨hp, hholds⟩, hname⟩

/-- A rule is found to be in several files exactly if files with different labels hold it: files
with one label are taken for one. -/
theorem exists_mem_duplicates_iff_labels :
    (∃ names, (rule, names) ∈ (duplicateIndex files).duplicates) ↔
      ∃ d ∈ files, ∃ e ∈ files, d.label ≠ e.label ∧ rule ∈ rules d.content ∧
        rule ∈ rules e.content := by
  rw [DuplicateIndex.exists_mem_duplicates_iff_notes]
  simp only [notes_duplicateIndex]
  constructor
  · rintro ⟨_, _, hne, ⟨d, hd, rfl, hrule⟩, e, he, rfl, hrule'⟩
    exact ⟨d, hd, e, he, hne, hrule, hrule'⟩
  · rintro ⟨d, hd, e, he, hne, hrule, hrule'⟩
    exact ⟨_, _, hne, ⟨d, hd, rfl, hrule⟩, e, he, rfl, hrule'⟩

/-- A rule is found to be in several files exactly if two of the listed files hold it. -/
theorem exists_mem_duplicates_iff (htree : tree.top.WellFormed)
    (hlist : tree.listFiles root extension = .ok paths)
    (hf : ruleFiles tree root extension = .ok files) :
    (∃ names, (rule, names) ∈ (duplicateIndex files).duplicates) ↔
      ∃ p ∈ paths, ∃ q ∈ paths, p ≠ q ∧ HoldsRule tree rule p ∧ HoldsRule tree rule q := by
  obtain ⟨paths', hlist', hread⟩ := ruleFiles_eq_ok_iff.mp hf
  obtain rfl := Except.ok.inj (hlist.symm.trans hlist')
  rw [exists_mem_duplicates_iff_labels]
  constructor
  · rintro ⟨d, hd, e, he, hne, hrule, hrule'⟩
    obtain ⟨p, hp, hcontent, hlabel⟩ := exists_mem_of_forall₂ hread.flip hd
    obtain ⟨q, hq, hcontent', hlabel'⟩ := exists_mem_of_forall₂ hread.flip he
    refine ⟨p, hp, q, hq, fun h => hne ?_, ⟨_, hcontent, hrule⟩, _, hcontent', hrule'⟩
    rw [hlabel, hlabel', h]
  · rintro ⟨p, hp, q, hq, hne, ⟨content, hcontent, hrule⟩, content', hcontent', hrule'⟩
    obtain ⟨d, hd, hread', hlabel⟩ := exists_mem_of_forall₂ hread hp
    obtain ⟨e, he, hread'', hlabel'⟩ := exists_mem_of_forall₂ hread hq
    obtain rfl := Except.ok.inj (hcontent.symm.trans hread')
    obtain rfl := Except.ok.inj (hcontent'.symm.trans hread'')
    -- Different files do not share a label, so that the index knows the rule from two files.
    refine ⟨d, hd, e, he, fun hname => hne ?_, hrule, hrule'⟩
    exact FileTree.eq_of_displayName_eq htree hlist hp hq (hlabel ▸ hlabel' ▸ hname)

/-- Below any root, rule files have different names, each of which has the parts of the path behind
the root with slashes between them. The names do not depend on how the root is spelled, and the
duplicate index has one of them for each file that holds a rule, so that no two files are taken for
one. -/
theorem displayName_listFiles (htree : tree.top.WellFormed)
    (hlist : tree.listFiles root extension = .ok paths) :
    (∀ p ∈ paths, ∃ names, names ≠ [] ∧ (∀ name ∈ names, ValidName name) ∧
      p.components = root.components ++ names.map (fun name => .name name.toList) ∧
      root.displayName p = "/".intercalate names) ∧
    Set.InjOn root.displayName {p | p ∈ paths} ∧
    (∀ other others, tree.node? other = tree.node? root →
      tree.listFiles other extension = .ok others →
      others.map other.displayName = paths.map root.displayName) ∧
    ∀ files, ruleFiles tree root extension = .ok files → ∀ rule,
      Set.BijOn root.displayName {p | p ∈ paths ∧ HoldsRule tree rule p}
        {name | (duplicateIndex files).Notes name rule} ∧
      ((∃ names, (rule, names) ∈ (duplicateIndex files).duplicates) ↔
        ∃ p ∈ paths, ∃ q ∈ paths, p ≠ q ∧ HoldsRule tree rule p ∧ HoldsRule tree rule q) := by
  refine ⟨fun p hp => ?_, ?_, ?_, ?_⟩
  · obtain ⟨names, hne, hvalid, rfl⟩ := FileTree.exists_names_of_mem_listFiles htree hlist hp
    exact ⟨names, hne, hvalid, components_joinNames hvalid root, displayName_joinNames hvalid root⟩
  · exact fun p hp q hq => FileTree.eq_of_displayName_eq htree hlist hp hq
  · exact fun other others hsame => FileTree.map_displayName_eq htree hsame hlist
  · exact fun files hf rule =>
      ⟨bijOn_displayName htree hlist hf rule, exists_mem_duplicates_iff htree hlist hf⟩

def sharedTree : FileTree where
  top := .directory [("a.list", .file "DOMAIN,a.b\n".toUTF8),
    ("b", .directory [("a.list", .file "DOMAIN,a.b\n".toUTF8)])]
  cwd := []

theorem wellFormed_sharedTree : sharedTree.top.WellFormed := by
  refine .directory (by decide) (by decide)
    (List.forall_mem_cons.mpr ⟨.file _, List.forall_mem_singleton.mpr ?_⟩)
  exact .directory (by decide) (by decide) (List.forall_mem_singleton.mpr (.file _))

theorem listFiles_sharedTree (hroot : sharedTree.node? root = some sharedTree.top)
    (hshort : (FileTree.joinNames root ["b"]).isTooLong = false) :
    sharedTree.listFiles root "list" =
      .ok [FileTree.joinNames root ["a.list"], FileTree.joinNames root ["b", "a.list"]] := by
  have hwalk : sharedTree.top.walk =
      [(["a.list"], .file), (["b"], .directory), (["b", "a.list"], .file)] := rfl
  have hfirst : (FileTree.joinNames root ["a.list"]).extension? = some "list" :=
    (extension?_joinNames (by decide) (List.cons_ne_nil _ _) root "list").mpr
      ⟨⟨"a", by decide, rfl⟩, by decide⟩
  have hsecond : (FileTree.joinNames root ["b", "a.list"]).extension? = some "list" :=
    (extension?_joinNames (by decide) (List.cons_ne_nil _ _) root "list").mpr
      ⟨⟨"a", by decide, rfl⟩, by decide⟩
  have horder :
      ((FileTree.joinNames root ["a.list"]).compare
        (FileTree.joinNames root ["b", "a.list"])).isLE := by
    unfold Path.compare
    rw [components_joinNames (by decide), components_joinNames (by decide), compareLex_append_left]
    decide
  rw [FileTree.listFiles_of_node? hroot rfl]
  unfold FileTree.longDirectories FileTree.filesWith FileTree.search
  rw [hwalk]
  simp [hshort, hfirst, hsecond, List.mergeSort_of_pairwise, horder]

theorem readText_sharedTree (names : List String) (hvalid : ∀ name ∈ names, ValidName name)
    (hstorable : ∀ name ∈ names, FileTree.StorableName name)
    (hentry : sharedTree.top.at? names = some (.file "DOMAIN,a.b\n".toUTF8))
    (hshort : (FileTree.joinNames (FileTree.dots 0) names).isTooLong = false) :
    sharedTree.readText (FileTree.joinNames (FileTree.dots 0) names) = .ok "DOMAIN,a.b\n" := by
  have hroot : sharedTree.locate (FileTree.dots 0) = .ok [] := FileTree.locate_dots rfl (by decide)
  have hlocate := FileTree.locate_joinNames hroot hvalid hstorable hentry nofun hshort
  exact FileTree.readText_of_node? ((FileTree.node?_of_locate hlocate).trans hentry)

/-- Files of one name in different directories keep their names apart, by whatever path the root is
given. -/
theorem displayName_sharedTree :
    sharedTree.top.WellFormed ∧
      sharedTree.listFiles (FileTree.dots 0) "list" = .ok [⟨"./a.list"⟩, ⟨"./b/a.list"⟩] ∧
      (∃ others, sharedTree.listFiles (FileTree.dots 1) "list" = .ok others ∧
        others.map (FileTree.dots 1).displayName = ["a.list", "b/a.list"]) ∧
      ∃ files, ruleFiles sharedTree (FileTree.dots 0) "list" = .ok files ∧
        ∃ names, ("DOMAIN,a.b", names) ∈ (duplicateIndex files).duplicates := by
  have hroot (count : Nat) (hshort : 2 * count + 1 < 4096) :
      sharedTree.node? (FileTree.dots count) = some sharedTree.top :=
    FileTree.node?_of_locate (FileTree.locate_dots rfl hshort)
  have hlist : sharedTree.listFiles (FileTree.dots 0) "list" = .ok [⟨"./a.list"⟩, ⟨"./b/a.list"⟩] :=
    listFiles_sharedTree (hroot 0 (by decide)) (by decide)
  have hothers := listFiles_sharedTree (hroot 1 (by decide)) (by decide)
  have hstored : FileTree.StorableName "a.list" := ⟨by decide, by decide⟩
  have hread : sharedTree.readText ⟨"./a.list"⟩ = .ok "DOMAIN,a.b\n" :=
    readText_sharedTree ["a.list"] (by decide) (List.forall_mem_singleton.mpr hstored)
      rfl (by decide)
  have hread' : sharedTree.readText ⟨"./b/a.list"⟩ = .ok "DOMAIN,a.b\n" :=
    readText_sharedTree ["b", "a.list"] (by decide)
      (List.forall_mem_cons.mpr ⟨⟨by decide, by decide⟩, List.forall_mem_singleton.mpr hstored⟩)
        rfl (by decide)
  have hfiles : ruleFiles sharedTree (FileTree.dots 0) "list" =
      .ok [⟨"a.list", "DOMAIN,a.b\n"⟩, ⟨"b/a.list", "DOMAIN,a.b\n"⟩] :=
    ruleFiles_eq_ok_iff.mpr ⟨_, hlist, .cons ⟨hread, by decide⟩ (.cons ⟨hread', by decide⟩ .nil)⟩
  have hrule : "DOMAIN,a.b" ∈ rules "DOMAIN,a.b\n" := by decide
  obtain ⟨-, -, hsame, hindex⟩ := displayName_listFiles wellFormed_sharedTree hlist
  refine ⟨wellFormed_sharedTree, hlist, ⟨_, hothers, ?_⟩, _, hfiles, ?_⟩
  · rw [hsame _ _ ((hroot 1 (by decide)).trans (hroot 0 (by decide)).symm) hothers]
    decide
  · refine (hindex _ hfiles _).2.mpr
      ⟨_, List.mem_cons_self, _, List.mem_cons_of_mem _ List.mem_cons_self, by decide, ?_⟩
    exact ⟨⟨_, hread, hrule⟩, _, hread', hrule⟩

end Lint

end RuleLint
