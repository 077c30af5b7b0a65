import RuleLint.Settings.Loading

namespace RuleLint.Settings

variable {tree : FileTree} {path : Path} {s valid : Settings} {f : Failure} {e : LoadError}

theorem validated_eq_ok_iff : s.validated = .ok valid ↔ s.flaw? = none ∧ s = valid := by
  unfold validated
  cases s.flaw? with
  | none => simp
  | some flaw => exact iff_of_false nofun fun h => nomatch h.1

theorem validated_eq_error_iff :
    s.validated = .error f ↔ ∃ flaw, s.flaw? = some flaw ∧ f = .invalidSettings flaw.message := by
  unfold validated
  cases s.flaw? with
  | none => exact iff_of_false nofun fun ⟨_, h, _⟩ => nomatch h
  | some flaw => simp [eq_comm]

inductive Loads (tree : FileTree) (path : Path) (s : Settings) : Prop
  | intro {text : String} (hread : tree.readText path = .ok text) (hyaml : ofYaml text = .ok s)
      (hflaw : s.flaw? = none)

/-- Why there are no settings in a file: it cannot be read, its text is not that of settings, or
they have a flaw. -/
inductive Unloadable (tree : FileTree) (path : Path) : LoadError → Prop
  | unreadable {cause : IoError} (hread : tree.readText path = .error cause) :
      Unloadable tree path (.unreadable path cause)
  | malformed {text : String} {cause : Yaml.Error} (hread : tree.readText path = .ok text)
      (hyaml : ofYaml text = .error cause) : Unloadable tree path (.malformed path cause)
  | flawed {text : String} {s : Settings} {flaw : Flaw} (hread : tree.readText path = .ok text)
      (hyaml : ofYaml text = .ok s) (hflaw : s.flaw? = some flaw) :
      Unloadable tree path (.invalid (.invalidSettings flaw.message))

theorem Loads.load_eq (h : Loads tree path s) : load tree path = .ok s := by
  obtain ⟨hread, hyaml, hflaw⟩ := h
  have hvalid := validated_eq_ok_iff.mpr ⟨hflaw, rfl⟩
  simp only [load, hread, hyaml, hvalid]
  rfl

theorem Unloadable.load_eq (h : Unloadable tree path e) : load tree path = .error e := by
  cases h with
  | unreadable hread => simp only [load, hread]
  | malformed hread hyaml => simp only [load, hread, hyaml]
  | flawed hread hyaml hflaw =>
    have hvalid := validated_eq_error_iff.mpr ⟨_, hflaw, rfl⟩
    simp only [load, hread, hyaml, hvalid]
    rfl

theorem loads_or_unloadable (tree : FileTree) (path : Path) :
    (∃ s, Loads tree path s) ∨ ∃ e, Unloadable tree path e := by
  cases hread : tree.readText path with
  | error cause => exact .inr ⟨_, .unreadable hread⟩
  | ok text =>
    cases hyaml : ofYaml text with
    | error cause => exact .inr ⟨_, .malformed hread hyaml⟩
    | ok s =>
      cases hflaw : s.flaw? with
      | some flaw => exact .inr ⟨_, .flawed hread hyaml hflaw⟩
      | none => exact .inl ⟨s, hread, hyaml, hflaw⟩

theorem load_eq_ok_iff : load tree path = .ok s ↔ Loads tree path s := by
  refine ⟨fun h => ?_, Loads.load_eq⟩
  obtain ⟨s', hs⟩ | ⟨e, he⟩ := loads_or_unloadable tree path
  · obtain rfl := Except.ok.inj (hs.load_eq.symm.trans h)
    exact hs
  · exact nomatch he.load_eq.symm.trans h

theorem load_eq_error_iff : load tree path = .error e ↔ Unloadable tree path e := by
  refine ⟨fun h => ?_, Unloadable.load_eq⟩
  obtain ⟨s, hs⟩ | ⟨e', he⟩ := loads_or_unloadable tree path
  · exact nomatch hs.load_eq.symm.trans h
  · obtain rfl := Except.error.inj (he.load_eq.symm.trans h)
    exact he

end RuleLint.Settings
