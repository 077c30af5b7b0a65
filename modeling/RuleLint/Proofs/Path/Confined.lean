import RuleLint.Proofs.FileTree.Names
import RuleLint.Proofs.Settings.Flaws
import RuleLint.Proofs.Source.Accepting

namespace RuleLint

open Text

namespace Source.Checker

variable {c : Checker} {file path said said' : String} {r : RuleSet}

theorem sourceError_inj : sourceError file r said = sourceError file r said' ↔ said = said' := by
  constructor
  · intro h
    have hmessage := congrArg String.toList (congrArg Diagnostic.message h)
    apply String.toList_injective
    simpa [sourceError, Diagnostic.onLine, Diagnostic.error] using hmessage
  · exact congrArg _

theorem checkFile_eq_refusal_iff :
    c.checkFile file r path = [refusal file r path] ↔ ¬ Path.Confined ⟨path⟩ := by
  rw [checkFile_eq]
  split_ifs with hconfined hfile
  · simp [hconfined]
  · refine iff_of_false ?_ (not_not.mpr hconfined)
    intro h
    have hsaid := sourceError_inj.mp (List.singleton_inj.mp h)
    simpa using congrArg String.toList hsaid
  · simp [hconfined]

end Source.Checker

namespace Path

variable {root : Path}

theorem names_eq_of_confined {p : Path} (h : p.Confined) :
    p.names.map String.toList = (fields '/' p.text.toList).filter fun s => s ≠ [] ∧ s ≠ ['.'] :=
  (steps_fields_of_goesDown (confined_iff.mp h).2).symm

/-- The path of the configuration and the path of a local source are refused if they are not
confined, and for no other reason. A confined path that is joined to a root has the components of
the root, and behind these, without any `..`, its own segments other than blank ones; these are also
what is displayed of it. -/
theorem confined_join (hroot : root.text ≠ "") (path : String) :
    let p : Path := ⟨path⟩
    (∀ s : Settings,
      (∃ f, ({ s with configPath := p } : Settings).flaw? = some f ∧ f.isOfConfigPath = true) ↔
      ¬ p.Confined) ∧
    (∀ (c : Source.Checker) (file : String) (r : RuleSet),
      c.checkFile file r path = [Source.Checker.refusal file r path] ↔ ¬ p.Confined) ∧
    (p.Confined → ∃ names : List String,
      names.map String.toList = (fields '/' path.toList).filter (fun s => s ≠ [] ∧ s ≠ ['.']) ∧
      (root.join p).components = root.components ++ names.map (fun name => .name name.toList) ∧
      ".." ∉ names ∧ root.displayName (root.join p) = "/".intercalate names) := by
  intro p
  refine ⟨fun s => Settings.exists_flaw_of_configPath_iff,
    fun c file r => Source.Checker.checkFile_eq_refusal_iff, ?_⟩
  intro hconfined
  have hdown : p.goesDown = true := (confined_iff.mp hconfined).2
  have hcomponents := components_join_of_goesDown hroot hdown
  refine ⟨p.names, names_eq_of_confined hconfined, hcomponents, ?_,
    displayName_of_components hcomponents⟩
  intro hup
  exact (valid_names hdown ".." hup).ne_up rfl

theorem confined_join_spelled :
    let root : Path := ⟨"./r/"⟩
    let p : Path := ⟨".//rules/./a.list/"⟩
    root.text ≠ "" ∧ p.Confined ∧ (root.join p).text = "./r/.//rules/./a.list/" ∧
      (root.join p).components =
        [.here, .name "r".toList, .name "rules".toList, .name "a.list".toList] ∧
      root.displayName (root.join p) = "rules/a.list" := by
  intro root p
  have hroot : root.text ≠ "" := by decide
  have hconfined : p.Confined := by decide
  obtain ⟨names, hnames, hcomponents, -, hdisplay⟩ := (confined_join hroot p.text).2.2 hconfined
  have hwritten : names = ["rules", "a.list"] := by
    apply List.map_injective_iff.mpr fun _ _ => String.toList_injective
    rw [hnames]
    decide
  rw [hwritten] at hcomponents hdisplay
  exact ⟨hroot, hconfined, by decide, hcomponents.trans (by decide), hdisplay⟩

end Path

end RuleLint
