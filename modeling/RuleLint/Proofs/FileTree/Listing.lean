import RuleLint.Proofs.FileTree.Reordering
import RuleLint.Proofs.FileTree.Walk
import RuleLint.Proofs.Path.Order

namespace RuleLint

open RuleLint.Path

namespace Node

variable {n m : Node} {names : List String}

def ShownName (name : String) : Prop := name.toList.head? ≠ some '.' ∧ name ≠ "target"

instance (name : String) : Decidable (ShownName name) := inferInstanceAs (Decidable (_ ∧ _))

theorem isSkipped_eq_false_iff {name : String} : isSkipped name = false ↔ ShownName name := by
  simp [isSkipped, ShownName]

/-- Names lead to a directory that is looked into. -/
structure LooksInto (n : Node) (names : List String) : Prop where
  directory : (n.at? names).map kind = some .directory
  shown : ∀ name ∈ names, ShownName name

/-- Names lead to a file with the extension: its name has something before a dot, and after this dot
the extension. -/
structure Lists (n : Node) (extension : String) (names : List String) : Prop where
  file : (n.at? names).map kind = some .file
  shown : ∀ name ∈ names.dropLast, ShownName name
  ends : ∃ stem, stem ≠ "" ∧ names.getLast? = some (stem ++ "." ++ extension)
  plain : '.' ∉ extension.toList

theorem WellFormed.directory_mem_walk_iff (h : n.WellFormed) :
    (names, .directory) ∈ n.walk ↔ names ≠ [] ∧ n.LooksInto names := by
  rw [h.mem_walk_iff]
  simp only [directoryNames, if_true, isSkipped_eq_false_iff]
  exact and_congr_right' ⟨fun ⟨hat, hshown⟩ => ⟨hat, hshown⟩, fun ⟨hat, hshown⟩ => ⟨hat, hshown⟩⟩

theorem WellFormed.file_mem_walk_iff (h : n.WellFormed) :
    (names, .file) ∈ n.walk ↔ names ≠ [] ∧ (n.at? names).map kind = some .file ∧
      ∀ name ∈ names.dropLast, ShownName name := by
  rw [h.mem_walk_iff]
  simp only [directoryNames, reduceCtorEq, if_false, isSkipped_eq_false_iff]

theorem Agrees.mem_walk_iff (h : n.Agrees m) (hn : n.WellFormed) (hm : m.WellFormed) {kind : Kind} :
    (names, kind) ∈ n.walk ↔ (names, kind) ∈ m.walk := by
  rw [hn.mem_walk_iff, hm.mem_walk_iff, h.map_kind_at? names]

end Node

namespace FileTree

open Node Text

variable {tree tree' : FileTree} {root p : Path} {n m : Node} {names : List String}
variable {wanted : Path → Kind → Bool} {extension : String}

theorem mem_search :
    p ∈ search root n wanted ↔ ∃ names kind, (names, kind) ∈ n.walk ∧ wanted p kind = true ∧
      p = joinNames root names := by
  unfold search
  rw [List.mem_mergeSort, List.mem_map]
  constructor
  · rintro ⟨⟨_, kind⟩, hm, rfl⟩
    obtain ⟨hreached, hwanted⟩ := List.mem_filter.mp hm
    obtain ⟨⟨names, _⟩, hwalk, heq⟩ := List.mem_map.mp hreached
    obtain ⟨rfl, rfl⟩ := Prod.mk.inj heq
    exact ⟨names, _, hwalk, hwanted, rfl⟩
  · rintro ⟨names, kind, hwalk, hwanted, rfl⟩
    exact ⟨(joinNames root names, kind), List.mem_filter.mpr ⟨List.mem_map_of_mem hwalk, hwanted⟩,
      rfl⟩

theorem joinNames_inj {names' : List String} (h : ∀ name ∈ names, ValidName name)
    (h' : ∀ name ∈ names', ValidName name)
    (heq : (joinNames root names).components = (joinNames root names').components) :
    names = names' := by
  rw [components_joinNames h, components_joinNames h'] at heq
  apply List.map_injective_iff.mpr _ (List.append_cancel_left heq)
  exact fun _ _ hname => String.toList_injective (Component.name.inj hname)

/-- A search gives each path once, and in path order. -/
theorem pairwise_before_search (h : n.WellFormed) : (search root n wanted).Pairwise Before := by
  apply pairwise_before_mergeSort
  rw [List.pairwise_map]
  apply List.Pairwise.filter
  rw [List.pairwise_map]
  apply (List.pairwise_map.mp h.nodup_walk).imp_of_mem
  intro e e' he he' hne heq
  exact hne (joinNames_inj (h.valid_walk he) (h.valid_walk he') heq)

theorem search_congr (h : n.Agrees m) (hn : n.WellFormed) (hm : m.WellFormed) :
    search root n wanted = search root m wanted := by
  apply (pairwise_before_search hn).eq_of_mem_iff (pairwise_before_search hm)
  intro p
  simp only [mem_search, h.mem_walk_iff hn hm]

/-- The directories that are looked into by a path that is too long. -/
def longDirectories (root : Path) (n : Node) : List Path :=
  search root n fun p kind => kind = .directory && p.isTooLong

def filesWith (extension : String) (root : Path) (n : Node) : List Path :=
  search root n fun p kind => kind = .file && p.extension? = some extension

theorem listFiles_of_node? (hroot : tree.node? root = some n) (hn : n.kind = .directory)
    (extension : String) :
    tree.listFiles root extension =
      match longDirectories root n with
      | p :: _ => .error (unreadableDirectory p)
      | [] => .ok (filesWith extension root n) := by
  unfold listFiles
  rw [hroot]
  cases n with
  | file | link => contradiction
  | directory entries => rfl

theorem mem_longDirectories (h : n.WellFormed) (hroot : root.isTooLong = false) :
    p ∈ longDirectories root n ↔
      ∃ names, n.LooksInto names ∧ p = joinNames root names ∧ p.isTooLong = true := by
  unfold longDirectories
  rw [mem_search]
  constructor
  · rintro ⟨names, kind, hwalk, hwanted, rfl⟩
    obtain ⟨rfl, hlong⟩ : kind = .directory ∧
        (joinNames root names).isTooLong = true := by simpa using hwanted
    exact ⟨names, (h.directory_mem_walk_iff.mp hwalk).2, rfl, hlong⟩
  · rintro ⟨names, hlooks, rfl, hlong⟩
    have hne : names ≠ [] := by
      rintro rfl
      exact Bool.noConfusion (hroot.symm.trans hlong)
    exact ⟨names, .directory, h.directory_mem_walk_iff.mpr ⟨hne, hlooks⟩, by simpa using hlong, rfl⟩

theorem mem_filesWith (h : n.WellFormed) (hn : n.kind = .directory) :
    p ∈ filesWith extension root n ↔
      ∃ names, n.Lists extension names ∧ p = joinNames root names := by
  unfold filesWith
  rw [mem_search]
  constructor
  · rintro ⟨names, kind, hwalk, hwanted, rfl⟩
    obtain ⟨rfl, hext⟩ : kind = .file ∧
        (joinNames root names).extension? = some extension := by simpa using hwanted
    obtain ⟨hne, hfile, hshown⟩ := h.file_mem_walk_iff.mp hwalk
    obtain ⟨hends, hplain⟩ := (extension?_joinNames (h.valid_walk hwalk) hne root extension).mp hext
    exact ⟨names, ⟨hfile, hshown, hends, hplain⟩, rfl⟩
  · rintro ⟨names, ⟨hfile, hshown, hends, hplain⟩, rfl⟩
    have hne : names ≠ [] := by
      rintro rfl
      rw [show (n.at? []).map Node.kind = some n.kind from rfl, hn] at hfile
      contradiction
    have hwalk : (names, .file) ∈ n.walk := h.file_mem_walk_iff.mpr ⟨hne, hfile, hshown⟩
    have hext := (extension?_joinNames (h.valid_walk hwalk) hne root extension).mpr ⟨hends, hplain⟩
    exact ⟨names, .file, hwalk, by simpa using hext, rfl⟩

theorem exists_node?_of_listFiles {paths : List Path}
    (h : tree.listFiles root extension = .ok paths) :
    ∃ n, tree.node? root = some n ∧ n.kind = .directory ∧ paths = filesWith extension root n := by
  unfold listFiles at h
  split at h
  · rename_i entries hroot
    dsimp only at h
    split at h
    · contradiction
    · exact ⟨_, hroot, rfl, (Except.ok.inj h).symm⟩
  · contradiction

theorem exists_names_of_mem_listFiles (htree : tree.top.WellFormed) {paths : List Path}
    (h : tree.listFiles root extension = .ok paths) (hp : p ∈ paths) :
    ∃ names, names ≠ [] ∧ (∀ name ∈ names, ValidName name) ∧ p = joinNames root names := by
  obtain ⟨n, hroot, -, rfl⟩ := exists_node?_of_listFiles h
  obtain ⟨names, _, hwalk, -, rfl⟩ := mem_search.mp hp
  exact ⟨names, ne_nil_of_mem_walk hwalk, (wellFormed_of_node? htree hroot).valid_walk hwalk, rfl⟩

/-- Listed files have different display names. -/
theorem eq_of_displayName_eq (htree : tree.top.WellFormed) {paths : List Path}
    (h : tree.listFiles root extension = .ok paths) {q : Path} (hp : p ∈ paths) (hq : q ∈ paths)
    (hname : root.displayName p = root.displayName q) : p = q := by
  obtain ⟨names, hne, hvalid, rfl⟩ := exists_names_of_mem_listFiles htree h hp
  obtain ⟨names', hne', hvalid', rfl⟩ := exists_names_of_mem_listFiles htree h hq
  rw [displayName_joinNames hvalid, displayName_joinNames hvalid'] at hname
  rw [intercalate_names_inj hne hne' hvalid hvalid' hname]

theorem nodup_displayName_listFiles (htree : tree.top.WellFormed) {paths : List Path}
    (h : tree.listFiles root extension = .ok paths) : (paths.map root.displayName).Nodup := by
  apply List.Nodup.map_on
  · intro p hp q hq
    exact eq_of_displayName_eq htree h hp hq
  · obtain ⟨n, hroot, -, rfl⟩ := exists_node?_of_listFiles h
    apply (pairwise_before_search (wellFormed_of_node? htree hroot)).imp
    rintro p q hlt rfl
    exact Std.Irrefl.irrefl p hlt

theorem listFiles_congr (h : tree.top.Agrees tree'.top) (hcwd : tree.cwd = tree'.cwd)
    (htree : tree.top.WellFormed) (htree' : tree'.top.WellFormed) (hroot : tree.node? root = some n)
    (hn : n.kind = .directory) (extension : String) :
    tree'.listFiles root extension = tree.listFiles root extension := by
  obtain ⟨m, hroot', hagree⟩ := node?_congr h hcwd hroot
  have hm : m.kind = .directory := (Option.some.inj (hagree.map_kind_at? [])).symm.trans hn
  have hsearch (wanted : Path → Kind → Bool) : search root m wanted = search root n wanted :=
    (search_congr hagree (wellFormed_of_node? htree hroot) (wellFormed_of_node? htree' hroot')).symm
  rw [listFiles_of_node? hroot hn, listFiles_of_node? hroot' hm]
  unfold longDirectories filesWith
  rw [hsearch, hsearch]

/-- The working directory, with any number of further dots in its path. -/
def dots : Nat → Path
  | 0 => ⟨"."⟩
  | count + 1 => ⟨(dots count).text ++ "/."⟩

theorem utf8ByteSize_dots (count : Nat) : (dots count).text.utf8ByteSize = 2 * count + 1 := by
  induction count with
  | zero => rfl
  | succ count ih =>
    show ((dots count).text ++ "/.").utf8ByteSize = _
    rw [String.utf8ByteSize_append, ih]
    rfl

theorem toList_dots_succ (count : Nat) :
    (dots (count + 1)).text.toList = (dots count).text.toList ++ ['/', '.'] :=
  String.toList_append

theorem fields_dots (count : Nat) :
    fields '/' (dots count).text.toList = List.replicate (count + 1) ['.'] := by
  induction count with
  | zero => rfl
  | succ count ih =>
    rw [toList_dots_succ, fields_append_cons, ih]
    exact List.replicate_succ'.symm

theorem dots_starts (count : Nat) : (dots count).text.toList.head? = some '.' := by
  induction count with
  | zero => rfl
  | succ count ih => rw [toList_dots_succ, List.head?_append, ih, Option.some_or]

theorem dots_ends (count : Nat) : (dots count).text.toList.getLast? = some '.' := by
  cases count with
  | zero => rfl
  | succ count =>
    rw [toList_dots_succ, List.getLast?_append]
    rfl

theorem zero_notMem_dots (count : Nat) : '\x00' ∉ (dots count).text.toList := by
  induction count with
  | zero => decide
  | succ count ih =>
    rw [toList_dots_succ, List.mem_append, not_or]
    exact ⟨ih, by decide⟩

theorem locate_dots (hcwd : (tree.top.at? tree.cwd).map Node.kind = some .directory) {count : Nat}
    (hshort : 2 * count + 1 < 4096) : tree.locate (dots count) = .ok tree.cwd := by
  have hrelative : (dots count).isAbsolute = false := by
    unfold isAbsolute
    rw [dots_starts]
    rfl
  rw [locate_eq_ok_iff]
  refine ⟨?_, zero_notMem_dots count, ?_, maxLinks, ?_⟩
  · intro h
    have hstarts := dots_starts count
    rw [h] at hstarts
    contradiction
  · unfold isTooLong
    rw [utf8ByteSize_dots]
    exact decide_eq_false (Nat.not_le_of_lt hshort)
  · unfold startOf
    rw [hrelative, fields_dots]
    exact leads_blanks (.inr rfl) hcwd _

theorem joinNames_singleton (root : Path) (name : String) :
    joinNames root [name] = root.join ⟨name⟩ := rfl

theorem isTooLong_join_dots {name : String} (hname : ValidName name) {count : Nat} :
    ((dots count).join ⟨name⟩).isTooLong = decide (4096 ≤ 2 * count + 2 + name.utf8ByteSize) := by
  have hjoin : ((dots count).join ⟨name⟩).text = (dots count).text ++ "/" ++ name := by
    unfold join
    rw [if_neg (by simp [hname.not_isAbsolute]), dots_ends]
    rfl
  unfold isTooLong
  rw [hjoin, String.utf8ByteSize_append, String.utf8ByteSize_append, utf8ByteSize_dots]
  rfl

theorem listFiles_ne_ok (hwell : n.WellFormed) (hroot : tree.node? root = some n)
    (hlooks : n.LooksInto names) (hlong : (joinNames root names).isTooLong = true)
    (paths : List Path) :
    tree.listFiles root extension ≠ .ok paths := by
  intro h
  obtain ⟨m, hroot', hm, -⟩ := exists_node?_of_listFiles h
  obtain rfl := Option.some.inj (hroot.symm.trans hroot')
  have hmem :=
    (mem_longDirectories hwell (isTooLong_of_node? hroot)).mpr ⟨names, hlooks, rfl, hlong⟩
  obtain ⟨p, rest, hp⟩ := List.exists_cons_of_ne_nil (List.ne_nil_of_mem hmem)
  rw [listFiles_of_node? hroot hm, hp] at h
  contradiction

/-- Names of the first directory that is looked into by a path that is too long. -/
structure FirstLong (root : Path) (n : Node) (names : List String) : Prop where
  looked : n.LooksInto names
  long : (joinNames root names).isTooLong = true
  first : ∀ names', n.LooksInto names' → (joinNames root names').isTooLong = true → names' ≠ names →
    (joinNames root names).Before (joinNames root names')

theorem firstLong_of_cons (hwell : n.WellFormed) (hroot : root.isTooLong = false) {rest : List Path}
    (h : longDirectories root n = p :: rest) :
    ∃ names, FirstLong root n names ∧ p = joinNames root names := by
  have hsorted : (p :: rest).Pairwise Before := h ▸ pairwise_before_search hwell
  have hmem {q : Path} := mem_longDirectories (p := q) hwell hroot
  rw [h] at hmem
  obtain ⟨names, hlooks, rfl, hlong⟩ := hmem.mp List.mem_cons_self
  refine ⟨names, ⟨hlooks, hlong, fun names' hlooks' hlong' hne => ?_⟩, rfl⟩
  rcases List.mem_cons.mp (hmem.mpr ⟨names', hlooks', rfl, hlong'⟩) with heq | hrest
  · have hvalid {names : List String} (h : n.LooksInto names) : ∀ name ∈ names, ValidName name := by
      obtain ⟨_, hat, -⟩ := Option.map_eq_some_iff.mp h.directory
      exact hwell.valid_at? hat
    exact (hne (joinNames_inj (hvalid hlooks') (hvalid hlooks) (congrArg Path.components heq))).elim
  · exact List.rel_of_pairwise_cons hsorted hrest

theorem FirstLong.eq {names' : List String} (h : FirstLong root n names)
    (h' : FirstLong root n names') :
    names = names' := by
  by_contra hne
  have hlt := h.first names' h'.looked h'.long (Ne.symm hne)
  have hgt := h'.first names h.looked h.long hne
  have hself : (joinNames root names).Before (joinNames root names) := by
    rwa [Std.Antisymm.antisymm _ _ hgt hlt] at hlt
  exact Std.Irrefl.irrefl _ hself

/-- Below a directory a listing fails exactly if there is a path that is too long, and it tells the
first one. -/
theorem listFiles_eq_error_iff (hwell : n.WellFormed) (hroot : tree.node? root = some n)
    (hn : n.kind = .directory) {e : Failure} :
    tree.listFiles root extension = .error e ↔
      ∃ names, FirstLong root n names ∧ e = unreadableDirectory (joinNames root names) := by
  have hshort := isTooLong_of_node? hroot
  rw [listFiles_of_node? hroot hn]
  cases hlong : longDirectories root n with
  | nil =>
    refine iff_of_false nofun ?_
    rintro ⟨names, hfirst, -⟩
    have hmem := (mem_longDirectories hwell hshort).mpr ⟨names, hfirst.looked, rfl, hfirst.long⟩
    rw [hlong] at hmem
    contradiction
  | cons p rest =>
    obtain ⟨names, hfirst, rfl⟩ := firstLong_of_cons hwell hshort hlong
    constructor
    · intro h
      exact ⟨names, hfirst, (Except.error.inj h).symm⟩
    · rintro ⟨names', hfirst', rfl⟩
      rw [hfirst.eq hfirst']

theorem listFiles_of_not_isDirectory (h : tree.isDirectory root = false) (extension : String) :
    tree.listFiles root extension = .error (.rootNotFound root.text) := by
  unfold listFiles
  split
  · rename_i entries hroot
    exact Bool.noConfusion (h.symm.trans (isDirectory_iff.mpr ⟨_, hroot, rfl⟩))
  · rfl

/-- What is listed is there, so that it can be read unless its path is too long or it is no text. -/
theorem readText_eq_error_iff_of_mem (htree : tree.top.WellFormed) (hstorable : tree.Storable)
    {paths : List Path} (hlist : tree.listFiles root extension = .ok paths) (hp : p ∈ paths)
    {e : IoError} :
    tree.readText p = .error e ↔ tree.Unreadable p e := by
  obtain ⟨n, hroot, hn, rfl⟩ := exists_node?_of_listFiles hlist
  obtain ⟨here, hlocate, hhere⟩ := locate_of_node? hroot
  have hwell := wellFormed_of_node? htree hroot
  obtain ⟨names, hlists, rfl⟩ := (mem_filesWith hwell hn).mp hp
  obtain ⟨m, hat, hfile⟩ := Option.map_eq_some_iff.mp hlists.file
  have hnames :
      tree.top.at? (here ++ names) = some m := by rw [at?_append, hhere, Option.bind_some, hat]
  have hvalid := hwell.valid_at? hat
  have hstored : ∀ name ∈ names, StorableName name :=
    fun name hname => hstorable _ m hnames name (List.mem_append_right here hname)
  cases hlong : (joinNames root names).isTooLong with
  | true =>
    obtain ⟨hempty, hzero, -⟩ := locate_eq_ok_iff.mp hlocate
    exact readText_eq_error_iff_of_isTooLong (joinNames_ne_empty hempty hvalid)
      (zero_notMem_joinNames hzero hstored)
      hlong
  | false =>
    cases m with
    | link | directory => contradiction
    | file content =>
      have hjoined := locate_joinNames hlocate hvalid hstored hnames nofun hlong
      exact readText_eq_error_iff_of_file ((node?_of_locate hjoined).trans hnames)

/-- Below a directory those files are listed, in path order, that have the extension and are reached
through directories that are looked into. The listing fails, with the first of them, if the paths of
such directories are too long. The order of entries in directories makes no difference. -/
theorem listFiles_of_directory (htree : tree.top.WellFormed) (hroot : tree.node? root = some n)
    (hn : n.kind = .directory) (extension : String) :
    ((∃ names, FirstLong root n names ∧
        tree.listFiles root extension = .error (unreadableDirectory (joinNames root names))) ∨
      (∀ names, n.LooksInto names → (joinNames root names).isTooLong = false) ∧
        ∃ paths, tree.listFiles root extension = .ok paths ∧ paths.Pairwise Before ∧
          ∀ p, p ∈ paths ↔ ∃ names, n.Lists extension names ∧ p = joinNames root names) ∧
    ∀ tree' : FileTree, tree'.top.WellFormed → tree.top.Agrees tree'.top → tree.cwd = tree'.cwd →
      tree'.listFiles root extension = tree.listFiles root extension := by
  have hwell := wellFormed_of_node? htree hroot
  refine ⟨?_, fun tree' htree' h hcwd => listFiles_congr h hcwd htree htree' hroot hn extension⟩
  cases hlist : tree.listFiles root extension with
  | error e =>
    obtain ⟨names, hfirst, rfl⟩ := (listFiles_eq_error_iff hwell hroot hn).mp hlist
    exact .inl ⟨names, hfirst, rfl⟩
  | ok paths =>
    have hshort (names : List String) (hlooks : n.LooksInto names) :
        (joinNames root names).isTooLong = false :=
      eq_false_of_ne_true fun hlong => listFiles_ne_ok hwell hroot hlooks hlong paths hlist
    obtain ⟨m, hroot', -, rfl⟩ := exists_node?_of_listFiles hlist
    obtain rfl := Option.some.inj (hroot.symm.trans hroot')
    exact .inr ⟨hshort, _, rfl, pairwise_before_search hwell, fun _ => mem_filesWith hwell hn⟩

def filesOnly (files : List (String × ByteArray)) : FileTree :=
  ⟨.directory (files.map fun (name, content) => (name, .file content)), []⟩

section

variable {files : List (String × ByteArray)}

theorem wellFormed_filesOnly (different : (files.map Prod.fst).Nodup)
    (valid : ∀ name ∈ files.map Prod.fst, ValidName name) : (filesOnly files).top.WellFormed := by
  have hnames : (files.map fun (name, content) => (name, Node.file content)).map Prod.fst =
      files.map Prod.fst := by
    rw [List.map_map]
    rfl
  refine .directory (hnames ▸ different) (hnames ▸ valid) ?_
  intro m hm
  obtain ⟨e, he, rfl⟩ := List.mem_map.mp hm
  obtain ⟨_, -, rfl⟩ := List.mem_map.mp he
  exact .file _

theorem at?_filesOnly_cons {name : String} {m : Node}
    (h : (filesOnly files).top.at? (name :: names) = some m) :
    name ∈ files.map Prod.fst ∧ names = [] ∧ m.kind = .file := by
  obtain ⟨entry, hlookup, hbelow⟩ :=
    Option.bind_eq_some_iff.mp ((at?_directory_cons _ _ _).symm.trans h)
  obtain ⟨e, he, heq⟩ := List.mem_map.mp (mem_of_lookup hlookup)
  obtain ⟨rfl, rfl⟩ := Prod.mk.inj heq
  cases names with
  | nil =>
    obtain rfl := Option.some.inj hbelow
    exact ⟨List.mem_map_of_mem he, rfl, rfl⟩
  | cons => contradiction

theorem storable_filesOnly (h : ∀ name ∈ files.map Prod.fst, StorableName name) :
    (filesOnly files).Storable := by
  intro names m hm
  cases names with
  | nil => exact nofun
  | cons name names =>
    obtain ⟨hname, rfl, -⟩ := at?_filesOnly_cons hm
    exact List.forall_mem_singleton.mpr (h name hname)

theorem eq_nil_of_looksInto_filesOnly (h : (filesOnly files).top.LooksInto names) : names = [] := by
  cases names with
  | nil => rfl
  | cons name below =>
    obtain ⟨m, hm, hkind⟩ := Option.map_eq_some_iff.mp h.directory
    obtain ⟨-, -, hfile⟩ := at?_filesOnly_cons hm
    exact nomatch hkind.symm.trans hfile

theorem listFiles_single {name : String} {content : ByteArray}
    (hroot : (filesOnly [(name, content)]).node? root = some (filesOnly [(name, content)]).top)
    (hext : (joinNames root [name]).extension? = some extension) :
    (filesOnly [(name, content)]).listFiles root extension = .ok [joinNames root [name]] := by
  have hwalk : (filesOnly [(name, content)]).top.walk = [([name], .file)] := rfl
  rw [listFiles_of_node? hroot rfl]
  unfold longDirectories filesWith search
  rw [hwalk]
  simp [hext]

end

theorem listFiles_filesOnly :
    let tree := filesOnly [("b.list", .empty), ("a.list", .empty)]
    (tree.top.WellFormed ∧ tree.node? (dots 0) = some tree.top ∧ tree.top.kind = .directory) ∧
      (∃ paths, tree.listFiles (dots 0) "list" = .ok paths ∧ paths.Pairwise Before ∧
        ∀ p, p ∈ paths ↔ ∃ names, tree.top.Lists "list" names ∧ p = joinNames (dots 0) names) ∧
      (filesOnly [("a.list", .empty), ("b.list", .empty)]).listFiles (dots 0) "list" =
        tree.listFiles (dots 0) "list" := by
  intro tree
  have htree : tree.top.WellFormed := wellFormed_filesOnly (by decide) (by decide)
  have htree' : (filesOnly [("a.list", .empty), ("b.list", .empty)]).top.WellFormed :=
    wellFormed_filesOnly (by decide) (by decide)
  have hroot : tree.node? (dots 0) = some tree.top := node?_of_locate (locate_dots rfl (by decide))
  have hagrees : tree.top.Agrees (filesOnly [("a.list", .empty), ("b.list", .empty)]).top :=
    agrees_of_perm (by decide) (List.Perm.swap _ _ _)
  obtain ⟨hlisted, hsame⟩ := listFiles_of_directory htree hroot rfl "list"
  refine ⟨⟨htree, hroot, rfl⟩, ?_, hsame _ htree' hagrees rfl⟩
  rcases hlisted with ⟨names, hfirst, -⟩ | ⟨-, hpaths⟩
  · have hlong := hfirst.long
    rw [eq_nil_of_looksInto_filesOnly hfirst.looked] at hlong
    exact absurd hlong (by decide)
  · exact hpaths

def rulesBelow : FileTree := ⟨.directory [("rules", .directory [("a.list", .file .empty)])], []⟩

/-- A directory whose path is too long ends the listing, even though nothing else is wrong with
it. -/
theorem listFiles_rulesBelow :
    rulesBelow.isDirectory (dots 2045) = true ∧ rulesBelow.top.Lists "list" ["rules", "a.list"] ∧
      ∀ paths, rulesBelow.listFiles (dots 2045) "list" ≠ .ok paths := by
  have hroot : rulesBelow.node? (dots 2045) = some rulesBelow.top :=
    node?_of_locate (locate_dots rfl (by decide))
  have hwell : rulesBelow.top.WellFormed := by
    refine .directory (by decide) (by decide) (List.forall_mem_singleton.mpr ?_)
    exact .directory (by decide) (by decide) (List.forall_mem_singleton.mpr (.file _))
  have hlooks : rulesBelow.top.LooksInto ["rules"] := ⟨rfl, by decide⟩
  have hsize : "rules".utf8ByteSize = 5 := rfl
  have hlong : (joinNames (dots 2045) ["rules"]).isTooLong = true := by
    rw [joinNames_singleton, isTooLong_join_dots (by decide), hsize]
    decide
  have hlists : rulesBelow.top.Lists "list" ["rules", "a.list"] :=
    ⟨rfl, by decide, ⟨"a", by decide, rfl⟩, by decide⟩
  exact ⟨isDirectory_iff.mpr ⟨_, hroot, rfl⟩, hlists, listFiles_ne_ok hwell hroot hlooks hlong⟩

end FileTree

end RuleLint
