import RuleLint.Proofs.FileTree.Listing
import RuleLint.Proofs.Lint.Run
import RuleLint.Proofs.Source.Trust

namespace RuleLint.Lint

open FileTree

variable {tree : FileTree} {root : Path} {settings : Settings} {prober : Prober}
variable {files : List Document} {paths : List Path} {e : Failure}

def AllReadable (tree : FileTree) (paths : List Path) : Prop :=
  ∀ p ∈ paths, ¬ ∃ cause, tree.Unreadable p cause

def RulesReadable (tree : FileTree) (root : Path) (settings : Settings) : Prop :=
  ∃ paths, tree.listFiles root settings.listExtension = .ok paths ∧ AllReadable tree paths

/-- Why a run stops. Every reason but the first implies that those before it do not apply. -/
inductive Stops (tree : FileTree) (root : Path) (settings : Settings) : Failure → Prop
  | noRoot (hroot : tree.isDirectory root = false) :
      Stops tree root settings (.rootNotFound root.text)
  | longDirectory {n : Node} {names : List String} (hroot : tree.node? root = some n)
      (hn : n.kind = .directory)
      (hfirst : FirstLong root n names) :
      Stops tree root settings (unreadableDirectory (joinNames root names))
  | ruleFile {front back : List Path} {p : Path} {cause : IoError}
      (hlist : tree.listFiles root settings.listExtension = .ok (front ++ p :: back))
      (hfront : AllReadable tree front) (hp : tree.Unreadable p cause) :
      Stops tree root settings (.unreadableFile p.text cause.message)
  | config {content : ByteArray} (hrules : RulesReadable tree root settings)
      (hc : tree.node? (root.join settings.configPath) = some (.file content))
      (hcontent : ¬ content.IsValidUTF8) :
      Stops tree root settings
        (.unreadableFile (root.join settings.configPath).text IoError.notText.message)
  | pattern {content : ByteArray} {front back : List String} {p : String}
      {cause : Pattern.CompileError}
      (hrules : RulesReadable tree root settings)
      (hc : tree.node? (root.join settings.configPath) = some (.file content))
      (hcontent : content.IsValidUTF8)
      (hpatterns : settings.trustedSources = front ++ p :: back)
      (hfront : ∀ q ∈ front, ∃ c, Pattern.compile q = .ok c)
      (hp : Pattern.compile p = .error cause) :
      Stops tree root settings
        (.invalidSettings ("bad trusted source pattern '" ++ p ++ "': " ++ cause.message p))

section

variable (htree : tree.top.WellFormed) (hstorable : tree.Storable)

include htree hstorable

theorem exists_readText_iff {extension : String} (hlist : tree.listFiles root extension = .ok paths)
    {p : Path} (hp : p ∈ paths) : (∃ s, tree.readText p = .ok s) ↔
      ¬ ∃ cause, tree.Unreadable p cause := by
  simp only [← readText_eq_error_iff_of_mem htree hstorable hlist hp]
  cases tree.readText p with
  | error cause => exact iff_of_false nofun fun hno => hno ⟨cause, rfl⟩
  | ok s => exact iff_of_true ⟨s, rfl⟩ nofun

theorem exists_ruleFiles_iff :
    (∃ files, ruleFiles tree root settings.listExtension = .ok files) ↔
      RulesReadable tree root settings := by
  constructor
  · rintro ⟨files, hf⟩
    obtain ⟨paths, hlist, hread⟩ := ruleFiles_eq_ok_iff.mp hf
    refine ⟨paths, hlist, fun p hp => ?_⟩
    obtain ⟨d, -, hd⟩ := exists_mem_of_forall₂ hread hp
    exact (exists_readText_iff htree hstorable hlist hp).mp ⟨d.content, hd.1⟩
  · rintro ⟨paths, hlist, hreadable⟩
    cases hf : ruleFiles tree root settings.listExtension with
    | ok files => exact ⟨files, rfl⟩
    | error e =>
      obtain ⟨front, p, back, cause, rfl, -, hp, -⟩ := (ruleFiles_eq_error_iff hlist).mp hf
      have hmem : p ∈ front ++ p :: back := List.mem_append_right front List.mem_cons_self
      exact (hreadable p hmem
        ⟨cause, (readText_eq_error_iff_of_mem htree hstorable hlist hmem).mp hp⟩).elim

theorem stops_of_ruleFiles_error (hf : ruleFiles tree root settings.listExtension = .error e) :
    Stops tree root settings e := by
  cases hlist : tree.listFiles root settings.listExtension with
  | ok paths =>
    obtain ⟨front, p, back, cause, rfl, hfront, hp, rfl⟩ := (ruleFiles_eq_error_iff hlist).mp hf
    have hback : p ∈ front ++ p :: back := List.mem_append_right front List.mem_cons_self
    refine .ruleFile hlist ?_ ((readText_eq_error_iff_of_mem htree hstorable hlist hback).mp hp)
    intro q hq
    exact (exists_readText_iff htree hstorable hlist (List.mem_append_left _ hq)).mp (hfront q hq)
  | error e' =>
    obtain rfl := Except.error.inj ((ruleFiles_of_listFiles_error hlist).symm.trans hf)
    cases hroot : tree.isDirectory root with
    | false =>
      obtain rfl := Except.error.inj ((listFiles_of_not_isDirectory hroot _).symm.trans hlist)
      exact .noRoot hroot
    | true =>
      obtain ⟨n, hnode, hn⟩ := isDirectory_iff.mp hroot
      have hwell := wellFormed_of_node? htree hnode
      obtain ⟨names, hfirst, rfl⟩ := (listFiles_eq_error_iff hwell hnode hn).mp hlist
      exact .longDirectory hnode hn hfirst

theorem run_of_stops (h : Stops tree root settings e) :
    run tree root settings prober = .error e := by
  cases h with
  | noRoot hroot =>
    exact run_of_ruleFiles_error
      (ruleFiles_of_listFiles_error (listFiles_of_not_isDirectory hroot _))
  | longDirectory hroot hn hfirst =>
    apply run_of_ruleFiles_error
    apply ruleFiles_of_listFiles_error
    exact (listFiles_eq_error_iff (wellFormed_of_node? htree hroot) hroot hn).mpr ⟨_, hfirst, rfl⟩
  | @ruleFile front back p cause hlist hfront hp =>
    apply run_of_ruleFiles_error
    have hmem : p ∈ front ++ p :: back := List.mem_append_right front List.mem_cons_self
    refine (ruleFiles_eq_error_iff hlist).mpr ⟨front, p, back, cause, rfl, ?_, ?_, rfl⟩
    · intro q hq
      exact (exists_readText_iff htree hstorable hlist (List.mem_append_left _ hq)).mpr
        (hfront q hq)
    · exact (readText_eq_error_iff_of_mem htree hstorable hlist hmem).mpr hp
  | config hrules hc hcontent =>
    obtain ⟨files, hf⟩ := (exists_ruleFiles_iff htree hstorable).mpr hrules
    have hread := (readText_eq_error_iff_of_file hc).mpr (.notText hc hcontent)
    exact run_of_document_error hf (isFile_iff.mpr ⟨_, hc⟩)
      (readDocument_eq_error_iff.mpr ⟨_, hread, rfl⟩)
  | pattern hrules hc hcontent hpatterns hfront hp =>
    obtain ⟨files, hf⟩ := (exists_ruleFiles_iff htree hstorable).mpr hrules
    have hread := readText_of_node? (s := ⟨_, hcontent⟩) hc
    have hd : readDocument tree root (root.join settings.configPath) = .ok ⟨_, _⟩ :=
      readDocument_eq_ok_iff.mpr ⟨hread, rfl⟩
    have htrust := Source.Trust.ofPatterns_eq_error_iff.mpr ⟨_, _, _, _, hpatterns, hfront, hp, rfl⟩
    exact run_of_trust_error hf (isFile_iff.mpr ⟨_, hc⟩) hd htrust

theorem not_ok_of_stops (h : Stops tree root settings e) :
    ¬ ∃ result, run tree root settings prober = .ok result := by
  rintro ⟨result, hrun⟩
  rw [run_of_stops htree hstorable h] at hrun
  contradiction

theorem stops_of_run (h : run tree root settings prober = .error e) :
    Stops tree root settings e := by
  cases hf : ruleFiles tree root settings.listExtension with
  | error e' =>
    obtain rfl := Except.error.inj ((run_of_ruleFiles_error hf).symm.trans h)
    exact stops_of_ruleFiles_error htree hstorable hf
  | ok files =>
    have hrules := (exists_ruleFiles_iff htree hstorable).mp ⟨files, hf⟩
    cases hc : tree.isFile (root.join settings.configPath) with
    | false => exact nomatch (run_of_no_config hf hc).symm.trans h
    | true =>
      obtain ⟨content, hnode⟩ := isFile_iff.mp hc
      cases hd : readDocument tree root (root.join settings.configPath) with
      | error e' =>
        obtain rfl := Except.error.inj ((run_of_document_error hf hc hd).symm.trans h)
        obtain ⟨cause, hcause, rfl⟩ := readDocument_eq_error_iff.mp hd
        have hbad := (readText_eq_error_iff_of_file hnode).mp hcause
        obtain ⟨hcontent, rfl⟩ := (unreadable_iff_of_file hnode).mp hbad
        exact .config hrules hnode hcontent
      | ok document =>
        cases ht : Source.Trust.ofPatterns settings.trustedSources with
        | ok trust => exact nomatch (run_of_config hf hc hd ht).symm.trans h
        | error e' =>
          obtain rfl := Except.error.inj ((run_of_trust_error hf hc hd ht).symm.trans h)
          obtain ⟨front, p, back, cause, hpatterns, hfront, hp, rfl⟩ :=
            Source.Trust.ofPatterns_eq_error_iff.mp ht
          have hcontent : content.IsValidUTF8 := by
            by_contra hbad
            have hread := (readText_eq_error_iff_of_file hnode).mpr (.notText hnode hbad)
            exact nomatch hread.symm.trans (readDocument_eq_ok_iff.mp hd).1
          exact .pattern hrules hnode hcontent hpatterns hfront hp

/-- A run stops for the first reason that applies. If none applies, it gives a report, whatever is
in the files. -/
theorem run_eq_error_iff_stops :
    (∀ e, run tree root settings prober = .error e ↔ Stops tree root settings e) ∧
      ((∃ result, run tree root settings prober = .ok result) ↔
        ∀ e, ¬ Stops tree root settings e) := by
  have herror (e : Failure) :
      run tree root settings prober = .error e ↔ Stops tree root settings e :=
    ⟨stops_of_run htree hstorable, run_of_stops htree hstorable⟩
  refine ⟨herror, ?_⟩
  simp only [← herror]
  cases run tree root settings prober with
  | error e => exact iff_of_false nofun fun hno => hno e rfl
  | ok result => exact iff_of_true ⟨result, rfl⟩ nofun

end

theorem run_filesOnly_notText :
    let tree := filesOnly [("a.list", ⟨#[0xff]⟩)]
    (tree.top.WellFormed ∧ tree.Storable) ∧ run tree (dots 0) {} (fun _ _ => none) =
      .error (.unreadableFile "./a.list" "stream did not contain valid UTF-8") := by
  intro tree
  have htree : tree.top.WellFormed := wellFormed_filesOnly (by decide) (by decide)
  have hstorable : tree.Storable :=
    storable_filesOnly (List.forall_mem_singleton.mpr ⟨by decide, by decide⟩)
  have hlocate : tree.locate (dots 0) = .ok [] := locate_dots rfl (by decide)
  have hlist : tree.listFiles (dots 0) "list" = .ok ([] ++ [⟨"./a.list"⟩]) :=
    listFiles_single (node?_of_locate hlocate) (by decide)
  have hnode : tree.node? ⟨"./a.list"⟩ = some (.file ⟨#[0xff]⟩) := by
    have hvalid : ∀ name ∈ ["a.list"], Path.ValidName name := by decide
    have hstored : ∀ name ∈ ["a.list"], StorableName name :=
      List.forall_mem_singleton.mpr ⟨by decide, by decide⟩
    have hat : tree.top.at? ([] ++ ["a.list"]) = some (.file ⟨#[0xff]⟩) := rfl
    exact node?_of_locate (locate_joinNames hlocate hvalid hstored hat nofun (by decide))
  have hbad : ¬ (⟨#[0xff]⟩ : ByteArray).IsValidUTF8 := by decide
  refine ⟨⟨htree, hstorable⟩, ?_⟩
  have hfront : AllReadable tree [] := nofun
  have hstops : Stops tree (dots 0) {} (.unreadableFile "./a.list" IoError.notText.message) :=
    @Stops.ruleFile tree (dots 0) {} [] [] ⟨"./a.list"⟩ .notText hlist hfront (.notText hnode hbad)
  exact ((run_eq_error_iff_stops htree hstorable).1 _).mpr hstops

theorem stops_of_long_file {name : String} {content : ByteArray}
    (hroot : (filesOnly [(name, content)]).node? root = some (filesOnly [(name, content)]).top)
    (hext : (joinNames root [name]).extension? = some settings.listExtension)
    (hlong : (joinNames root [name]).isTooLong = true) :
    Stops (filesOnly [(name, content)]) root settings
      (.unreadableFile (joinNames root [name]).text IoError.nameTooLong.message) := by
  have hlist : (filesOnly [(name, content)]).listFiles root settings.listExtension =
      .ok ([] ++ [joinNames root [name]]) := listFiles_single hroot hext
  have hfront : AllReadable (filesOnly [(name, content)]) [] := nofun
  exact .ruleFile hlist hfront (.tooLong hlong)

/-- A run stops at a rule file whose path is too long, even though all files are text and nothing
else is wrong. -/
theorem run_filesOnly_tooLong :
    let tree := filesOnly [("a.list", "DOMAIN,a.b\n".toUTF8)]
    let settings : Settings := { configPath := ⟨"c.ini"⟩, reachability := .skip }
    (tree.isDirectory (dots 2045) = true ∧ "DOMAIN,a.b\n".toUTF8.IsValidUTF8 ∧
      tree.isFile ((dots 2045).join settings.configPath) = false) ∧
      ¬ ∃ result, run tree (dots 2045) settings (fun _ _ => none) = .ok result := by
  intro tree settings
  have htree : tree.top.WellFormed := wellFormed_filesOnly (by decide) (by decide)
  have hstorable : tree.Storable :=
    storable_filesOnly (List.forall_mem_singleton.mpr ⟨by decide, by decide⟩)
  have hroot : tree.node? (dots 2045) = some tree.top :=
    node?_of_locate (locate_dots rfl (by decide))
  have hlong {name : String} (hname : Path.ValidName name) (hsize : 4 ≤ name.utf8ByteSize) :
      ((dots 2045).join ⟨name⟩).isTooLong = true := by
    rw [isTooLong_join_dots hname]
    exact decide_eq_true (by omega)
  have hlisted : (joinNames (dots 2045) ["a.list"]).isTooLong = true := by
    rw [joinNames_singleton]
    exact hlong (by decide) (by decide)
  have hext : (joinNames (dots 2045) ["a.list"]).extension? = some settings.listExtension := by
    rw [Path.extension?_joinNames (by decide) (by decide)]
    exact ⟨⟨"a", by decide, rfl⟩, by decide⟩
  have hconfig : tree.isFile ((dots 2045).join settings.configPath) = false :=
    isFile_of_isTooLong (hlong (by decide) (by decide))
  have hdirectory : tree.isDirectory (dots 2045) = true := isDirectory_iff.mpr ⟨_, hroot, rfl⟩
  have hstops := stops_of_long_file hroot hext hlisted
  exact ⟨⟨hdirectory, String.isValidUTF8 _, hconfig⟩, not_ok_of_stops htree hstorable hstops⟩

end RuleLint.Lint
