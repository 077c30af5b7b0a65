import RuleLint.Program
import RuleLint.Proofs.CommandLine.Formats
import RuleLint.Proofs.Lint.Clean
import RuleLint.Proofs.Settings.Loading

namespace RuleLint.Program

variable {start : Start} {o o' : CommandLine.Options} {loaded settings : Settings}
    {r : Report} {e : Fatal}

/-- The settings file that is asked for, or else the one of the root, if there is one. -/
def settingsFile (start : Start) (o : CommandLine.Options) : Option Path :=
  let usual := (rootOf start o).join ⟨Settings.fileName⟩
  o.settings.or (if start.tree.isFile usual then some usual else none)

inductive Loads (start : Start) (o : CommandLine.Options) : Settings → Prop
  | file {path : Path} {s : Settings} (hfile : settingsFile start o = some path)
      (hloads : Settings.Loads start.tree path s) : Loads start o s
  | usual (hfile : settingsFile start o = none) : Loads start o {}

/-- Why a run stops: there are no settings in the file where they should be, the settings have a
flaw once some of them are overridden, or the files under the root cannot be checked. -/
inductive Stops (start : Start) (o : CommandLine.Options) : Fatal → Prop
  | settings {path : Path} {e : Settings.LoadError} (hfile : settingsFile start o = some path)
      (hload : Settings.Unloadable start.tree path e) : Stops start o (.settings e)
  | overrides {loaded : Settings} {flaw : Settings.Flaw} (hloads : Loads start o loaded)
      (hflaw : (loaded.merge o.overrides).flaw? = some flaw) :
      Stops start o (.failure (.invalidSettings flaw.message))
  | run {loaded : Settings} {f : Failure} (hloads : Loads start o loaded)
      (hflaw : (loaded.merge o.overrides).flaw? = none)
      (hrun : Lint.runBuilding start.tree (rootOf start o) (loaded.merge o.overrides) start.client =
        .error f) :
      Stops start o (.failure f)

structure Gives (start : Start) (o : CommandLine.Options) (settings : Settings)
    (report : Report) : Prop where
  loaded : ∃ loaded, Loads start o loaded ∧ settings = loaded.merge o.overrides
  flawless : settings.flaw? = none
  ran : ∃ log, Lint.runBuilding start.tree (rootOf start o) settings start.client =
    .ok (report, log)

theorem loadSettings_of_none (h : settingsFile start o = none) : loadSettings start o = .ok {} := by
  unfold settingsFile at h
  obtain ⟨hasked, husual⟩ := Option.or_eq_none_iff.mp h
  unfold loadSettings
  rw [hasked]
  unfold Settings.loadFromRoot
  exact if_neg fun hfile => nomatch (if_pos hfile).symm.trans husual

theorem loadSettings_of_some {path : Path} (h : settingsFile start o = some path) :
    loadSettings start o = Settings.load start.tree path := by
  unfold settingsFile at h
  unfold loadSettings
  cases hasked : o.settings with
  | some asked =>
    rw [hasked] at h
    rw [← Option.some.inj h]
  | none =>
    rw [hasked, Option.none_or] at h
    obtain ⟨hfile, husual⟩ := Option.ite_none_right_eq_some.mp h
    rw [← Option.some.inj husual]
    unfold Settings.loadFromRoot
    exact if_pos hfile

theorem Loads.loadSettings_eq (h : Loads start o loaded) : loadSettings start o = .ok loaded := by
  cases h with
  | file hfile hloads => rw [loadSettings_of_some hfile, hloads.load_eq]
  | usual hfile => exact loadSettings_of_none hfile

theorem Loads.effectiveSettings_eq (h : Loads start o loaded) :
    effectiveSettings start o = (loaded.merge o.overrides).validated.mapError .failure := by
  unfold effectiveSettings
  rw [h.loadSettings_eq]
  rfl

theorem Loads.effectiveSettings_of_flawless (h : Loads start o loaded)
    (hflaw : (loaded.merge o.overrides).flaw? = none) :
    effectiveSettings start o = .ok (loaded.merge o.overrides) := by
  rw [h.effectiveSettings_eq, Settings.validated_eq_ok_iff.mpr ⟨hflaw, rfl⟩]
  rfl

theorem report_of_settings (h : effectiveSettings start o = .ok settings) :
    report start o =
      (Lint.runBuilding start.tree (rootOf start o) settings start.client).mapError .failure >>=
        fun found => .ok { found.1 with timestamp := start.now.render } :=
  bind_of_ok h _

theorem Stops.report_eq (h : Stops start o e) : report start o = .error e := by
  cases h with
  | settings hfile hload =>
    unfold report effectiveSettings
    rw [loadSettings_of_some hfile, hload.load_eq]
    rfl
  | overrides hloads hflaw =>
    unfold report
    rw [hloads.effectiveSettings_eq, Settings.validated_eq_error_iff.mpr ⟨_, hflaw, rfl⟩]
    rfl
  | run hloads hflaw hrun =>
    rw [report_of_settings (hloads.effectiveSettings_of_flawless hflaw), hrun]
    rfl

theorem Gives.report_eq (h : Gives start o settings r) :
    report start o = .ok { r with timestamp := start.now.render } := by
  obtain ⟨⟨loaded, hloads, rfl⟩, hflaw, log, hrun⟩ := h
  rw [report_of_settings (hloads.effectiveSettings_of_flawless hflaw), hrun]
  rfl

theorem exists_loads_or_stops (start : Start) (o : CommandLine.Options) :
    (∃ loaded, Loads start o loaded) ∨ ∃ e, Stops start o e := by
  cases hfile : settingsFile start o with
  | none => exact .inl ⟨_, .usual hfile⟩
  | some path =>
    obtain ⟨s, hs⟩ | ⟨e, he⟩ := Settings.loads_or_unloadable start.tree path
    · exact .inl ⟨s, .file hfile hs⟩
    · exact .inr ⟨_, .settings hfile he⟩

theorem stops_or_gives (start : Start) (o : CommandLine.Options) :
    (∃ e, Stops start o e) ∨ ∃ settings r, Gives start o settings r := by
  obtain ⟨loaded, hloads⟩ | hstops := exists_loads_or_stops start o
  · cases hflaw : (loaded.merge o.overrides).flaw? with
    | some flaw => exact .inl ⟨_, .overrides hloads hflaw⟩
    | none =>
      cases hrun :
        Lint.runBuilding start.tree (rootOf start o) (loaded.merge o.overrides) start.client with
      | error f => exact .inl ⟨_, .run hloads hflaw hrun⟩
      | ok result =>
        obtain ⟨r, log⟩ := result
        exact .inr ⟨_, r, ⟨loaded, hloads, rfl⟩, hflaw, log, hrun⟩
  · exact .inl hstops

theorem run_of_read (h : CommandLine.read start.arguments start.rootVariable = .ok o) :
    run start = runWith start o := by
  unfold run
  rw [h]

theorem Stops.runWith_eq (h : Stops start o e) :
    runWith start o = { exitCode := 1, output := "[ERROR] fatal: " ++ e.message ++ "\n" } := by
  unfold runWith
  rw [h.report_eq]

/-- For any text: with the rendering of a moment in its place Lean would set about computing
that. -/
theorem exitCode_timestamp (r : Report) (timestamp : String) :
    { r with timestamp }.exitCode = r.exitCode := rfl

theorem runWith_of_report {r : Report} {timestamp : String}
    (h : report start o = .ok { r with timestamp }) :
    runWith start o =
      { exitCode := r.exitCode, output := print o.reportFormat { r with timestamp } } := by
  unfold runWith
  rw [h, ← exitCode_timestamp r timestamp]

theorem Gives.runWith_eq (h : Gives start o settings r) :
    runWith start o =
      { exitCode := r.exitCode
        output := print o.reportFormat { r with timestamp := start.now.render } } :=
  runWith_of_report h.report_eq

/-- The format, and when the program is started, have no say in what is found. -/
theorem report_sameButFormat (arguments : List String) (now : Timestamp) (h : o.SameButFormat o') :
    report { start with arguments, now } o' =
      (report start o).map fun r => { r with timestamp := now.render } := by
  obtain ⟨p, f, f', rfl, rfl⟩ := CommandLine.Options.sameButFormat_iff.mp h
  have hsettings : effectiveSettings { start with arguments, now } (p.withFormat f') =
      effectiveSettings start (p.withFormat f) := rfl
  have hroot :
      rootOf { start with arguments, now } (p.withFormat f') = rootOf start (p.withFormat f) := rfl
  cases heffective : effectiveSettings start (p.withFormat f) with
  | error e =>
    unfold report
    rw [hsettings, heffective]
    rfl
  | ok settings =>
    rw [report_of_settings heffective, report_of_settings (hsettings.trans heffective), hroot]
    dsimp only
    cases Lint.runBuilding start.tree (rootOf start (p.withFormat f)) settings start.client <;> rfl

theorem Stops.runWith_sameButFormat (arguments : List String) (now : Timestamp)
    (h : Stops start o e) (hsame : o.SameButFormat o') :
    runWith { start with arguments, now } o' = runWith start o := by
  unfold runWith
  rw [report_sameButFormat arguments now hsame, h.report_eq]
  rfl

theorem Gives.runWith_sameButFormat (arguments : List String) (now : Timestamp)
    (h : Gives start o settings r) (hsame : o.SameButFormat o') :
    runWith { start with arguments, now } o' =
      { exitCode := r.exitCode
        output := print o'.reportFormat { r with timestamp := now.render } } := by
  refine runWith_of_report ?_
  rw [report_sameButFormat arguments now hsame, h.report_eq]
  rfl

/-- Command lines that differ only in how they ask for a format lead to the same exit code. -/
theorem exitCode_formatArguments {front back : List String} {format format' : Option String}
    (harguments : start.arguments = front ++ CommandLine.formatArguments format ++ back)
    (h : CommandLine.read start.arguments start.rootVariable = .ok o)
    (h' : CommandLine.read (front ++ CommandLine.formatArguments format' ++ back)
      start.rootVariable = .ok o') :
    (run
      { start with arguments := front ++ CommandLine.formatArguments format' ++ back }).exitCode =
      (run start).exitCode := by
  have hsame := CommandLine.sameButFormat_of_read (harguments ▸ h) h'
  have hother :
      run { start with arguments := front ++ CommandLine.formatArguments format' ++ back } =
      runWith { start with arguments := front ++ CommandLine.formatArguments format' ++ back } o' :=
    run_of_read h'
  rw [run_of_read h, hother]
  obtain ⟨e, he⟩ | ⟨settings, r, hgives⟩ := stops_or_gives start o
  · rw [he.runWith_sameButFormat _ start.now hsame]
  · rw [hgives.runWith_sameButFormat _ start.now hsame, hgives.runWith_eq]

end RuleLint.Program
