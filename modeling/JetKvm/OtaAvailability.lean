import JetKvm.OtaRunHistory

/-!
# When an update is available

A check compares the parsed versions of a component, but once the parameters
name a custom version it compares their texts, and it never takes back the
custom-version flag of an earlier check.  The results say for which records and
replies the outcome is the one the parsed versions call for.
-/

namespace JetKvm

namespace Ota

namespace Availability

variable {semver : Semver}

/-- One of the versions is above the other, so that they are not two spellings
of the same version. -/
def Differ (semver : Semver) (first second : semver.Version) : Prop :=
  semver.greaterThan first second = true ∨
    semver.greaterThan second first = true

/-- No version is above itself. -/
def Irreflexive (semver : Semver) : Prop :=
  ∀ version, semver.greaterThan version version = false

theorem not_differ_self (irreflexive : Irreflexive semver)
    (version : semver.Version) : ¬ Differ semver version version := by
  simp [Differ, irreflexive version]

/-- The parameters name a custom version of the component. -/
def NamesVersion (params : UpdateParams) (component : Component) : Prop :=
  ∃ constraint, params.constraint component = some constraint ∧
    constraint ≠ ""

/-- What the parameters ask for: a later version, or any other version if they
name one. -/
def Wanted (semver : Semver) (params : UpdateParams) (component : Component)
    (localVersion remoteVersion : semver.Version) : Prop :=
  match params.constraint component with
  | none => False
  | some constraint =>
      if constraint = "" then
        semver.greaterThan remoteVersion localVersion = true
      else Differ semver remoteVersion localVersion

/-- Both versions of the component parse, and it is available when the
parameters want the remote one. -/
def AvailableWhenWanted (semver : Semver) (remote : UpdateMetadata)
    (component : Component) (params : UpdateParams)
    (before after : ComponentUpdateStatus) : Prop :=
  ∃ localVersion remoteVersion,
    semver.newVersion before.localVersion = .ok localVersion ∧
      semver.newVersion (remote.fields component).version =
        .ok remoteVersion ∧
      (after.available = true ↔
        Wanted semver params component localVersion remoteVersion)

/-- The flag for a custom version is set only on a component that is available
because these parameters name a version of it. -/
def CustomOnlyIfNamed (component : Component) (params : UpdateParams)
    (after : ComponentUpdateStatus) : Prop :=
  after.customVersionUpdate = true →
    after.available = true ∧ NamesVersion params component

/-- If the parameters name a custom version, the remote version is spelled as
the local one or is another version. -/
def SpelledAlike (semver : Semver) (remote : UpdateMetadata)
    (component : Component) (params : UpdateParams)
    (before : ComponentUpdateStatus) : Prop :=
  NamesVersion params component →
    (remote.fields component).version ≠ before.localVersion →
    ∀ localVersion remoteVersion,
      semver.newVersion before.localVersion = .ok localVersion →
      semver.newVersion (remote.fields component).version =
        .ok remoteVersion →
      Differ semver remoteVersion localVersion

/-- The flag for a custom version is not left from an earlier check, unless
this one sets it again. -/
def FlagFresh (remote : UpdateMetadata) (component : Component)
    (params : UpdateParams) (before : ComponentUpdateStatus) : Prop :=
  before.customVersionUpdate = true →
    NamesVersion params component ∧
      (remote.fields component).version ≠ before.localVersion

/-- A check that succeeds parses both versions and leaves the flags below. -/
theorem outcome_of_checked {remote : UpdateMetadata} {component : Component}
    {params : UpdateParams} {before after : ComponentUpdateStatus}
    (checked : remoteMetadataToComponentStatus semver remote component before
      params = .ok after) :
    ∃ localVersion remoteVersion,
      semver.newVersion before.localVersion = .ok localVersion ∧
      semver.newVersion (remote.fields component).version =
        .ok remoteVersion ∧
      (NamesVersion params component →
        (after.available = true ↔
          (remote.fields component).version ≠ before.localVersion) ∧
        (after.customVersionUpdate = true ↔
          after.available = true ∨ before.customVersionUpdate = true)) ∧
      (¬ NamesVersion params component →
        (after.available = true ↔
          Wanted semver params component localVersion remoteVersion) ∧
        after.customVersionUpdate = before.customVersionUpdate) := by
  unfold remoteMetadataToComponentStatus at checked
  dsimp only at checked
  cases parsedLocal : semver.newVersion before.localVersion with
  | error error => simp [parsedLocal] at checked
  | ok localVersion =>
      cases parsedRemote :
          semver.newVersion (remote.fields component).version with
      | error error => simp [parsedLocal, parsedRemote] at checked
      | ok remoteVersion =>
          simp only [parsedLocal, parsedRemote] at checked
          refine ⟨localVersion, remoteVersion, rfl, rfl, ?_⟩
          unfold NamesVersion Wanted
          cases named : params.constraint component with
          | none =>
              rw [named] at checked
              obtain rfl := Except.ok.inj checked
              simp
          | some constraint =>
              simp only [named] at checked
              by_cases blank : constraint = ""
              · rw [if_neg (not_not.mpr blank)] at checked
                obtain rfl := Except.ok.inj checked
                simp [blank]
              · rw [if_pos blank] at checked
                by_cases spelled :
                    (remote.fields component).version = before.localVersion
                · rw [if_neg (not_not.mpr spelled)] at checked
                  obtain rfl := Except.ok.inj checked
                  simp [blank, spelled]
                · rw [if_pos spelled] at checked
                  obtain rfl := Except.ok.inj checked
                  simp [blank, spelled]

variable {remote : UpdateMetadata} {component : Component}
  {params : UpdateParams} {before after : ComponentUpdateStatus}

theorem wanted_iff_differ_of_named (named : NamesVersion params component)
    (localVersion remoteVersion : semver.Version) :
    Wanted semver params component localVersion remoteVersion ↔
      Differ semver remoteVersion localVersion := by
  obtain ⟨constraint, names, nonempty⟩ := named
  simp [Wanted, names, nonempty]

theorem availableWhenWanted_iff (irreflexive : Irreflexive semver)
    (checked : remoteMetadataToComponentStatus semver remote component before
      params = .ok after) :
    AvailableWhenWanted semver remote component params before after ↔
      SpelledAlike semver remote component params before := by
  obtain ⟨localVersion, remoteVersion, parsedLocal, parsedRemote, named,
    unnamed⟩ := outcome_of_checked checked
  constructor
  · rintro ⟨localVersion', remoteVersion', parsedLocal', parsedRemote',
      available⟩ names apart first second parsedFirst parsedSecond
    rw [parsedLocal'] at parsedFirst
    rw [parsedRemote'] at parsedSecond
    obtain rfl := Except.ok.inj parsedFirst
    obtain rfl := Except.ok.inj parsedSecond
    rw [wanted_iff_differ_of_named names] at available
    exact available.mp ((named names).1.mpr apart)
  · intro alike
    refine ⟨localVersion, remoteVersion, parsedLocal, parsedRemote, ?_⟩
    by_cases names : NamesVersion params component
    · rw [wanted_iff_differ_of_named names, (named names).1]
      constructor
      · intro apart
        exact alike names apart _ _ parsedLocal parsedRemote
      · intro differ spelled
        rw [spelled, parsedLocal] at parsedRemote
        obtain rfl := Except.ok.inj parsedRemote
        exact not_differ_self irreflexive _ differ
    · exact (unnamed names).1

theorem customOnlyIfNamed_iff
    (checked : remoteMetadataToComponentStatus semver remote component before
      params = .ok after) :
    CustomOnlyIfNamed component params after ↔
      FlagFresh remote component params before := by
  obtain ⟨_, _, _, _, named, unnamed⟩ := outcome_of_checked checked
  unfold CustomOnlyIfNamed FlagFresh
  by_cases names : NamesVersion params component
  · obtain ⟨available, custom⟩ := named names
    rw [custom, ← available]
    constructor
    · intro only stored
      exact ⟨names, (only (Or.inr stored)).1⟩
    · rintro fresh (offered | stored)
      · exact ⟨offered, names⟩
      · exact ⟨(fresh stored).2, names⟩
  · rw [(unnamed names).2]
    constructor
    · intro only stored
      exact absurd (only stored).2 names
    · intro fresh stored
      exact absurd (fresh stored).1 names

/-- A check marks exactly what the parameters want, and flags only what they
name, if and only if it meets no second spelling of the local version under a
custom version and no flag of an earlier check. -/
theorem availability_iff (irreflexive : Irreflexive semver)
    (remote : UpdateMetadata) (component : Component) (params : UpdateParams)
    (before after : ComponentUpdateStatus)
    (checked : remoteMetadataToComponentStatus semver remote component before
      params = .ok after) :
    AvailableWhenWanted semver remote component params before after ∧
        CustomOnlyIfNamed component params after ↔
      SpelledAlike semver remote component params before ∧
        FlagFresh remote component params before :=
  and_congr (availableWhenWanted_iff irreflexive checked)
    (customOnlyIfNamed_iff checked)

/-- The library of the releases, which reads a leading `v` too. -/
def spellings : Semver where
  Version := Nat × Nat × Nat
  newVersion text :=
    if text = "v0.4.8" then .ok (0, 4, 8) else releases.newVersion text
  greaterThan := releases.greaterThan
  prerelease := releases.prerelease
  toString := releases.toString

theorem spellings_irreflexive : Irreflexive spellings := by
  intro version
  simp [spellings, releases]

/-- An upgrade of the app without a custom version. -/
theorem availability_iff_upgrade :
    AvailableWhenWanted spellings
        { app := { version := "0.4.9" }, system := {} } .app
        { components := [("app", "")] } { localVersion := "0.4.8" }
        { available := true
          availableReason :=
            "remote version 0.4.9 is greater than local version 0.4.8"
          version := "0.4.9"
          localVersion := "0.4.8" } ∧
      CustomOnlyIfNamed .app { components := [("app", "")] }
        { available := true
          availableReason :=
            "remote version 0.4.9 is greater than local version 0.4.8"
          version := "0.4.9"
          localVersion := "0.4.8" } := by
  refine (availability_iff spellings_irreflexive _ _ _ _ _ rfl).mpr
    ⟨?_, fun stored => nomatch stored⟩
  rintro ⟨constraint, named, nonempty⟩
  exact absurd (Option.some.inj named).symm nonempty

/-- The app is at the requested version, which the server spells with a
leading `v`. -/
theorem available_though_same_version :
    ∃ after,
      remoteMetadataToComponentStatus spellings
          { app := { version := "v0.4.8" }, system := {} } .app
          { localVersion := "0.4.8" } { components := [("app", "0.4.8")] } =
        .ok after ∧
      ¬ (AvailableWhenWanted spellings
          { app := { version := "v0.4.8" }, system := {} } .app
          { components := [("app", "0.4.8")] } { localVersion := "0.4.8" }
          after ∧
        CustomOnlyIfNamed .app { components := [("app", "0.4.8")] } after) := by
  refine ⟨_, rfl, ?_⟩
  rintro ⟨⟨localVersion, remoteVersion, parsedLocal, parsedRemote, available⟩,
    -⟩
  obtain rfl := Except.ok.inj parsedLocal
  obtain rfl := Except.ok.inj parsedRemote
  exact absurd (available.mp rfl) (not_differ_self spellings_irreflexive _)

end Availability

end Ota

end JetKvm
