import JetKvm.DhcpLedger
import JetKvm.InterfaceManager
import JetKvm.LabelledRuns

/-!
# The life of the DHCP clients

Which request loops there are while links go up and down, configurations are
set, leases are renewed and the loops take their ticks, in any order.
-/

namespace JetKvm

namespace DhcpLifecycle

open Netlink ConfParser Dhcp InterfaceManager LabelledRuns Fallible

/-! ### Applying a configuration -/

/-- Whether applying a configuration gets to disabling a family. -/
def stops (config : NetworkConfig) : Family → Bool
  | .inet =>
      match config.ipv4Mode.string with
      | "static" => config.ipv4Static.isSome
      | "disabled" => true
      | _ => false
  | .inet6 =>
      match config.ipv6Mode.string with
      | "static" => config.ipv6Static.isSome
      | "slaac" => true
      | "link_local" => true
      | "disabled" => true
      | _ => false

section Applying

variable {parsers : Parsers} {outside : Outside} {config : NetworkConfig}
variable {dc : DHCPClient}

/-- The clients are wired and have this ledger. -/
def Follows (after : Ledger) (dc : DHCPClient) : Prop :=
  Wired dc ∧ ledger dc = after

theorem follows_started (wired : Wired dc) :
    dc.start.isOk = true ∧ Follows (ledger dc).start (started dc) := by
  obtain ⟨next, starts, nextWired, same⟩ := start_spec wired
  rw [started, starts]
  exact ⟨rfl, nextWired, same⟩

theorem follows_runs (family : Family) (wired : Wired dc) :
    (setFamily family true dc).start.isOk = true ∧
      Follows ((ledger dc).enable family true).start
        (started (setFamily family true dc)) := by
  obtain ⟨enabled, same⟩ := setFamily_spec family true wired
  rw [← same]
  exact follows_started enabled

theorem follows_settledIPv4 (wired : Wired dc) :
    Follows ((ledger dc).settle .inet (serves config .inet)
      (stops config .inet)) (settledIPv4 config dc) := by
  have disabled := setFamily_spec .inet false wired
  rw [settledIPv4]
  split
  · rename_i mode
    have same : (ledger dc).settle .inet (serves config .inet)
        (stops config .inet) = if config.ipv4Static.isSome then
          (ledger dc).enable .inet false else ledger dc := by
      simp [Ledger.settle, serves, stops, mode]
    rw [same]
    split_ifs
    · exact disabled
    · exact ⟨wired, rfl⟩
  · rename_i mode
    have same : (ledger dc).settle .inet (serves config .inet)
        (stops config .inet) = ((ledger dc).enable .inet true).start := by
      simp [Ledger.settle, serves, mode]
    rw [same]
    exact (follows_runs .inet wired).2
  · rename_i mode
    have same : (ledger dc).settle .inet (serves config .inet)
        (stops config .inet) = (ledger dc).enable .inet false := by
      simp [Ledger.settle, serves, stops, mode]
    rw [same]
    exact disabled
  · rename_i notStatic notDhcp notDisabled
    have notServed : serves config .inet = false := decide_eq_false notDhcp
    have notStopped : stops config .inet = false := by simp [stops]
    rw [notServed, notStopped]
    exact ⟨wired, rfl⟩

theorem follows_settledIPv6 (wired : Wired dc) :
    Follows ((ledger dc).settle .inet6 (serves config .inet6)
      (stops config .inet6)) (settledIPv6 config dc) := by
  have disabled := setFamily_spec .inet6 false wired
  have runs : serves config .inet6 = true →
      Follows ((ledger dc).settle .inet6 (serves config .inet6)
        (stops config .inet6)) (started (dc.setIPv6 true)) := by
    intro served
    rw [served]
    exact (follows_runs .inet6 wired).2
  have ends : serves config .inet6 = false → stops config .inet6 = true →
      Follows ((ledger dc).settle .inet6 (serves config .inet6)
        (stops config .inet6)) (dc.setIPv6 false) := by
    intro notServed stopped
    rw [notServed, stopped]
    exact disabled
  rw [settledIPv6]
  split
  · rename_i mode
    split_ifs with given
    · exact ends (by simp [serves, mode]) (by simp [stops, mode, given])
    · have notStopped : stops config .inet6 = false := by
        simp [stops, mode, given]
      have notServed : serves config .inet6 = false := by simp [serves, mode]
      rw [notServed, notStopped]
      exact ⟨wired, rfl⟩
  · rename_i mode
    exact runs (by simp [serves, mode])
  · rename_i mode
    exact ends (by simp [serves, mode]) (by simp [stops, mode])
  · rename_i mode
    exact runs (by simp [serves, mode])
  · rename_i mode
    exact ends (by simp [serves, mode]) (by simp [stops, mode])
  · rename_i mode
    exact ends (by simp [serves, mode]) (by simp [stops, mode])
  · rename_i notStatic notDhcp notSlaac notBoth notLocal notDisabled
    have notServed : serves config .inet6 = false :=
      decide_eq_false fun either => either.elim notDhcp notBoth
    have notStopped : stops config .inet6 = false := by simp [stops]
    rw [notServed, notStopped]
    exact ⟨wired, rfl⟩

/-- Wired clients can be started, so only the IPv4 part itself can fail. -/
theorem ipv4Done_eq (wired : Wired dc) :
    ipv4Done parsers outside config dc =
      ipv4Applies parsers outside config := by
  have starts : (dc.setIPv4 true).start.isOk = true :=
    (follows_runs .inet wired).1
  rw [ipv4Done, starts, Bool.or_true, Bool.and_true]

theorem follows_settled (wired : Wired dc) :
    Follows ((ledger dc).apply (serves config) (stops config)
      (ipv4Applies parsers outside config))
      (settled parsers outside config dc) := by
  obtain ⟨firstWired, first⟩ := @follows_settledIPv4 config dc wired
  rw [settled, ipv4Done_eq wired, Ledger.apply, ← first]
  split_ifs
  · exact follows_settledIPv6 firstWired
  · exact ⟨firstWired, rfl⟩

end Applying

/-! ### The events -/

inductive Event where
  | start (ensured : Bool) (outside : Outside)
  | linkUp (outside : Outside)
  | linkDown
  | setConfig (config : NetworkConfig) (outside : Outside)
  | renew
  | tick (index : Nat) (family : Family) (tick : Tick)

def step (parsers : Parsers) (order : FieldOrder) (im : Manager) :
    Event → Option Manager
  | .start ensured outside =>
      if im.started then none
      else some ((InterfaceManager.start parsers outside ensured).after im)
  | .linkUp outside =>
      if im.started then some ((handleLinkUp parsers outside).after im)
      else none
  | .linkDown =>
      if im.started then some (handleLinkDown.after im) else none
  | .setConfig config outside =>
      if im.started then some ((setConfig parsers outside order config).after im)
      else none
  | .renew =>
      if im.started then some (renewDHCPLease.after im) else none
  | .tick index family tick =>
      (im.dhcpClient.tick index family tick).map fun dc =>
        { im with dhcpClient := dc }

def initial (config : NetworkConfig) : Manager where
  config := config
  dhcpClient := { clientType := "jetdhcpc" }

/-- What the request loops depend on -/
structure View where
  config : NetworkConfig
  linkUp : Bool
  ledger : Ledger

def view (im : Manager) : View :=
  ⟨im.config, im.linkUp, ledger im.dhcpClient⟩

namespace View

def apply (parsers : Parsers) (outside : Outside) (view : View) : View :=
  { view with
    ledger := view.ledger.apply (serves view.config) (stops view.config)
      (ipv4Applies parsers outside view.config) }

def after (parsers : Parsers) (order : FieldOrder) (view : View) :
    Event → View
  | .start ensured outside =>
      if ensured then
        { view with linkUp := true }.apply parsers outside
      else { view with linkUp := false }
  | .linkUp outside => { view with linkUp := true }.apply parsers outside
  | .linkDown =>
      { view with
        linkUp := false
        ledger :=
          if serves view.config .inet then
            { view.ledger with current := false }
          else view.ledger }
  | .setConfig config outside =>
      match config.setDefaultsAndValidate parsers order with
      | .error _ => view
      | .ok config => { view with config := config }.apply parsers outside
  | .renew => view
  | .tick _ _ _ => view

end View

/-- The clients are wired and the manager has this view. -/
def Shows (shown : View) (im : Manager) : Prop :=
  Wired im.dhcpClient ∧ view im = shown

variable {parsers : Parsers} {outside : Outside} {order : FieldOrder}

theorem ends_applyConfiguration {im : Manager} (wired : Wired im.dhcpClient) :
    Ends (applyConfiguration parsers outside) im
      (fun _ => Shows ((view im).apply parsers outside))
      fun _ => Shows ((view im).apply parsers outside) := by
  obtain ⟨nextWired, same⟩ := @follows_settled parsers outside im.config _ wired
  have shows : Shows ((view im).apply parsers outside)
      { im with
        dhcpClient := settled parsers outside im.config im.dhcpClient } := by
    refine ⟨nextWired, ?_⟩
    rw [view, same]
    rfl
  apply leaves_applyConfiguration.imp
  · rintro _ next ⟨-, rfl⟩
    exact shows
  · rintro _ next ⟨-, rfl⟩
    exact shows

theorem ends_renewDHCPLease {im : Manager} {shown : View}
    (shows : Shows shown im) :
    Ends renewDHCPLease im (fun _ => Shows shown) fun _ => Shows shown := by
  obtain ⟨wired, same⟩ := shows
  rw [renewDHCPLease, ends_bind, ends_get]
  cases renews : im.dhcpClient.renew with
  | error text => exact ⟨wired, same⟩
  | ok renewed =>
      obtain ⟨renewedWired, unchanged⟩ := renew_spec wired renews
      refine ⟨renewedWired, ?_⟩
      rw [view, unchanged]
      exact same

theorem ends_start {im : Manager} (wired : Wired im.dhcpClient)
    (ensured : Bool) :
    let shown := (view im).after parsers order (.start ensured outside)
    Ends (InterfaceManager.start parsers outside ensured) im
      (fun _ => Shows shown) fun _ => Shows shown := by
  rw [InterfaceManager.start, ends_bind, ends_modify]
  cases ensured with
  | true =>
      exact @ends_applyConfiguration parsers outside
        { im with started := true, linkUp := true } wired
  | false => exact ⟨wired, rfl⟩

theorem ends_handleLinkUp {im : Manager} (wired : Wired im.dhcpClient) :
    let shown := (view im).after parsers order (.linkUp outside)
    Ends (handleLinkUp parsers outside) im (fun _ => Shows shown)
      fun _ => Shows shown := by
  intro shown
  rw [handleLinkUp, ends_bind, ends_modify, ends_bind, ends_attempt]
  have renews : ∀ between, Shows shown between →
      Ends (do
        let im ← get
        if im.config.ipv4Mode.string = "dhcp" then do
          let _ ← attempt renewDHCPLease
          pure ()
        else pure () : ManagerCall) between (fun _ => Shows shown)
        fun _ => Shows shown := by
    intro between shows
    rw [ends_bind, ends_get, ends_ite]
    refine ⟨fun _ => ?_, fun _ => shows⟩
    rw [ends_bind, ends_attempt]
    exact ends_renewDHCPLease shows
  exact (@ends_applyConfiguration parsers outside
    { im with linkUp := true } wired).imp (fun _ => renews) fun _ => renews

theorem ends_handleLinkDown {im : Manager} (wired : Wired im.dhcpClient) :
    let shown := (view im).after parsers order .linkDown
    Ends handleLinkDown im (fun _ => Shows shown) fun _ => Shows shown := by
  intro shown
  rw [handleLinkDown, ends_bind, ends_modify, ends_bind, ends_get, ends_ite]
  constructor
  · intro dhcp
    refine ⟨(stop_spec wired).1, ?_⟩
    have runs : serves im.config .inet = true := decide_eq_true dhcp
    simp only [shown, View.after, view, runs, if_true, (stop_spec wired).2]
  · intro notDhcp
    refine ⟨wired, ?_⟩
    have runsNot : serves im.config .inet = false := decide_eq_false notDhcp
    simp [shown, View.after, view, runsNot]

theorem ends_setConfig {im : Manager} (wired : Wired im.dhcpClient)
    (config : NetworkConfig) :
    let shown := (view im).after parsers order (.setConfig config outside)
    Ends (setConfig parsers outside order config) im (fun _ => Shows shown)
      fun _ => Shows shown := by
  rw [setConfig, ends_bind, ends_wrapping]
  simp only [View.after]
  cases config.setDefaultsAndValidate parsers order with
  | error text => exact ⟨wired, rfl⟩
  | ok accepted =>
      rw [reported_ok, ends_pure, ends_bind, ends_modify]
      exact @ends_applyConfiguration parsers outside
        { im with config := accepted } wired

/-- Every event does to the loops what the view says. -/
theorem step_spec {im next : Manager} {event : Event}
    (taken : step parsers order im event = some next)
    (wired : Wired im.dhcpClient) :
    Shows ((view im).after parsers order event) next := by
  cases event with
  | start ensured outside =>
      rw [step, Option.ite_none_left_eq_some, Option.some.injEq] at taken
      obtain ⟨-, rfl⟩ := taken
      exact (ends_start wired ensured).after
  | linkUp outside =>
      rw [step, Option.ite_none_right_eq_some, Option.some.injEq] at taken
      obtain ⟨-, rfl⟩ := taken
      exact (ends_handleLinkUp wired).after
  | linkDown =>
      rw [step, Option.ite_none_right_eq_some, Option.some.injEq] at taken
      obtain ⟨-, rfl⟩ := taken
      exact (ends_handleLinkDown wired).after
  | setConfig config outside =>
      rw [step, Option.ite_none_right_eq_some, Option.some.injEq] at taken
      obtain ⟨-, rfl⟩ := taken
      exact (ends_setConfig wired config).after
  | renew =>
      rw [step, Option.ite_none_right_eq_some, Option.some.injEq] at taken
      obtain ⟨-, rfl⟩ := taken
      exact (ends_renewDHCPLease ⟨wired, rfl⟩).after
  | tick index family tick =>
      rw [step, Option.map_eq_some_iff] at taken
      obtain ⟨dc, ticked, rfl⟩ := taken
      obtain ⟨dcWired, same⟩ := tick_spec wired ticked
      refine ⟨dcWired, ?_⟩
      rw [view, same]
      rfl

theorem applies_of_serves {config : NetworkConfig}
    (runs : serves config .inet = true) :
    ipv4Applies parsers outside config = true := by
  simp [ipv4Applies, of_decide_eq_true runs]

theorem stops_of_applies {config : NetworkConfig}
    (applies : ipv4Applies parsers outside config = true)
    (runsNot : serves config .inet = false) :
    stops config .inet = true := by
  have notDhcp := of_decide_eq_false runsNot
  rw [ipv4Applies] at applies
  rw [stops]
  split at applies
  · rename_i mode
    simp only [mode]
    cases static : config.ipv4Static with
    | some _ => rfl
    | none =>
        rw [static] at applies
        cases applies
  · exact absurd ‹_› notDhcp
  · rename_i mode
    simp only [mode]
  · cases applies

/-! ### Runs -/

/-- The request loops of a family that may still send requests -/
def liveLoops (im : Manager) (family : Family) : Nat :=
  im.dhcpClient.made.countP fun client => (client family).canSend

/-- At most one request loop that may still send requests for each family, none
for a family that the configuration does not run DHCP on, and one for each that
it does, while the link is up. -/
structure Sound (im : Manager) : Prop where
  single : ∀ family, liveLoops im family ≤ 1
  quiet : ∀ family, serves im.config family = false → liveLoops im family = 0
  served : im.linkUp = true → ∀ family, serves im.config family = true →
    1 ≤ liveLoops im family

def hasLoop (im : Manager) (family : Family) : Prop :=
  ∃ client ∈ im.dhcpClient.made, (client family).loop.isSome = true

/-- Whether applying a configuration gets to the start of the DHCP client. -/
def ReachesStart (parsers : Parsers) (outside : Outside)
    (config : NetworkConfig) : Prop :=
  serves config .inet = true ∨
    ipv4Applies parsers outside config = true ∧ serves config .inet6 = true

/-- A configuration is applied that leaves DHCP to every family with a request
loop, does not start a client beside older loops, and while the link is up runs
DHCP on no further family but the first one that a client is started for. -/
structure Undisturbed (parsers : Parsers) (outside : Outside) (im : Manager)
    (config : NetworkConfig) (up : Bool) : Prop where
  stays : ∀ family, hasLoop im family → serves config family = true
  once : im.dhcpClient.client = none → ReachesStart parsers outside config →
    ∀ family, ¬hasLoop im family
  gets : up = true → ∀ family, serves config family = true →
    hasLoop im family ∨ im.dhcpClient.client = none ∧
      ReachesStart parsers outside config ∧
      (family = .inet ∨ serves config .inet = false)

/-- The condition on an event: only where a configuration is applied can one
go wrong. -/
def Gentle (parsers : Parsers) (order : FieldOrder) (im : Manager) :
    Event → Prop
  | .start ensured outside =>
      ensured = true → Undisturbed parsers outside im im.config true
  | .linkUp outside => Undisturbed parsers outside im im.config true
  | .setConfig config outside =>
      ∀ accepted, config.setDefaultsAndValidate parsers order = .ok accepted →
        Undisturbed parsers outside im accepted im.linkUp
  | _ => True

/-- A tick that sends a request is for a family that the configuration runs
DHCP on. -/
def RequestsServed (im : Manager) : Event → Prop
  | .tick _ family (.ensure true) => serves im.config family = true
  | _ => True

instance (im : Manager) : ∀ event, Decidable (RequestsServed im event)
  | .tick _ family (.ensure true) =>
      inferInstanceAs (Decidable (serves im.config family = true))
  | .tick _ _ (.ensure false) => isTrue trivial
  | .tick _ _ .fire => isTrue trivial
  | .tick _ _ (.answer _) => isTrue trivial
  | .start _ _ => isTrue trivial
  | .linkUp _ => isTrue trivial
  | .linkDown => isTrue trivial
  | .setConfig _ _ => isTrue trivial
  | .renew => isTrue trivial

theorem liveLoops_eq {im : Manager} (wired : Wired im.dhcpClient)
    (family : Family) :
    liveLoops im family = (ledger im.dhcpClient).loops family := by
  rw [liveLoops, ledger]
  apply List.countP_congr
  intro client member
  constructor
  · intro may
    cases loop : (client family).loop with
    | none => simp [Half.canSend, loop] at may
    | some phase => rfl
  · exact wired.live client member family

theorem hasLoop_iff {im : Manager} {family : Family} :
    hasLoop im family ↔ 0 < (ledger im.dhcpClient).loops family :=
  List.countP_pos_iff.symm

theorem sound_iff {im : Manager} (wired : Wired im.dhcpClient) :
    Sound im ↔ Ledger.Sound (serves im.config) im.linkUp
      (ledger im.dhcpClient) := by
  constructor
  · rintro ⟨single, quiet, served⟩
    simp only [liveLoops_eq wired] at single quiet served
    exact ⟨single, quiet, served⟩
  · rintro ⟨single, quiet, served⟩
    simp only [← liveLoops_eq wired] at single quiet served
    exact ⟨single, quiet, served⟩

theorem undisturbed_iff {im : Manager} {config : NetworkConfig} {up : Bool} :
    Undisturbed parsers outside im config up ↔
      Ledger.Undisturbed (serves config) up (ipv4Applies parsers outside config)
        (ledger im.dhcpClient) := by
  have none : im.dhcpClient.client = none ↔
      (ledger im.dhcpClient).current = false := by
    simp [ledger]
  constructor
  · rintro ⟨stays, once, gets⟩
    simp only [hasLoop_iff, none, Nat.not_lt, Nat.le_zero] at stays once gets
    exact ⟨stays, once, gets⟩
  · rintro ⟨stays, once, gets⟩
    simp only [← hasLoop_iff, ← none, ← Nat.le_zero, ← Nat.not_lt]
      at stays once gets
    exact ⟨stays, once, gets⟩

/-- What is known of a manager as long as the loops are sound. -/
structure Tidy (im : Manager) : Prop where
  wired : Wired im.dhcpClient
  kept : (ledger im.dhcpClient).Kept
  sound : Sound im

theorem tidy_initial (config : NetworkConfig) : Tidy (initial config) := by
  refine ⟨⟨rfl, fun client none => absurd none List.not_mem_nil⟩,
    ⟨fun some => absurd some (Nat.lt_irrefl 0), fun _ => ⟨rfl, rfl⟩⟩, ?_⟩
  exact ⟨fun _ => Nat.zero_le 1, fun _ _ => rfl, fun up => by cases up⟩

/-- Applying a configuration to a tidy manager keeps the loops sound exactly
when it leaves them undisturbed, and then the manager stays tidy. -/
theorem apply_spec {im next : Manager} (tidy : Tidy im)
    {config : NetworkConfig} {up : Bool}
    (shows : Shows (View.apply parsers outside
      ⟨config, up, ledger im.dhcpClient⟩) next) :
    (Sound next ↔ Undisturbed parsers outside im config up) ∧
      (Sound next → Tidy next) := by
  obtain ⟨wired, shown⟩ := shows
  obtain ⟨sameConfig, sameUp, sameLedger⟩ := View.mk.inj shown
  have single : ∀ family, (ledger im.dhcpClient).loops family ≤ 1 :=
    ((sound_iff tidy.wired).mp tidy.sound).single
  have stopped := @stops_of_applies parsers outside config
  have here : Sound next ↔ Ledger.Sound (serves config) up
      ((ledger im.dhcpClient).apply (serves config) (stops config)
        (ipv4Applies parsers outside config)) := by
    rw [sound_iff wired, sameLedger, sameConfig, sameUp]
  constructor
  · rw [here, undisturbed_iff]
    exact Ledger.sound_apply_iff tidy.kept single stopped
  · intro sound
    refine ⟨wired, ?_, sound⟩
    rw [sameLedger]
    exact Ledger.kept_apply tidy.kept (here.mp sound)
      applies_of_serves stopped

theorem unchanged_spec {im next : Manager} (tidy : Tidy im)
    (shows : Shows (view im) next) : Tidy next := by
  obtain ⟨wired, shown⟩ := shows
  obtain ⟨sameConfig, sameUp, sameLedger⟩ := View.mk.inj shown
  refine ⟨wired, sameLedger ▸ tidy.kept, (sound_iff wired).mpr ?_⟩
  rw [sameConfig, sameUp, sameLedger]
  exact (sound_iff tidy.wired).mp tidy.sound

/-- With the link down nothing needs a loop. -/
theorem down_spec {im next : Manager} (tidy : Tidy im) {current : Bool}
    (shows : Shows ⟨im.config, false,
      { ledger im.dhcpClient with current := current }⟩ next)
    (fewer : (ledger im.dhcpClient).current = false → current = false) :
    Tidy next := by
  obtain ⟨wired, shown⟩ := shows
  obtain ⟨sameConfig, sameUp, sameLedger⟩ := View.mk.inj shown
  have before := (sound_iff tidy.wired).mp tidy.sound
  refine ⟨wired, ?_, (sound_iff wired).mpr ?_⟩
  · rw [sameLedger]
    exact ⟨tidy.kept.own, fun none =>
      ⟨(tidy.kept.fresh none).1, fewer (tidy.kept.fresh none).2⟩⟩
  · rw [sameConfig, sameUp, sameLedger]
    exact ⟨before.single, before.quiet, fun up => by cases up⟩

theorem step_decides {im next : Manager} {event : Event} (tidy : Tidy im)
    (taken : step parsers order im event = some next) :
    (Sound next ↔ Gentle parsers order im event) ∧
      (Sound next → Tidy next) := by
  have shows := step_spec taken tidy.wired
  have always : Gentle parsers order im event → Tidy next →
      (Sound next ↔ Gentle parsers order im event) ∧
        (Sound next → Tidy next) := fun gentle after =>
    ⟨iff_of_true after.sound gentle, fun _ => after⟩
  cases event with
  | start ensured outside =>
      cases ensured with
      | true =>
          obtain ⟨decides, stays⟩ := apply_spec tidy shows
          exact ⟨decides.trans ⟨fun whole _ => whole, fun whole => whole rfl⟩,
            stays⟩
      | false =>
          exact always (fun ensured => by cases ensured)
            (down_spec tidy shows id)
  | linkUp outside => exact apply_spec tidy shows
  | linkDown =>
      apply always trivial
      rw [View.after] at shows
      split_ifs at shows
      · exact down_spec tidy shows fun _ => rfl
      · exact down_spec tidy shows id
  | setConfig config outside =>
      rw [View.after] at shows
      rw [Gentle]
      cases validated : config.setDefaultsAndValidate parsers order with
      | error text =>
          rw [validated] at shows
          have after := unchanged_spec tidy shows
          exact ⟨iff_of_true after.sound fun accepted ok => (by cases ok),
            fun _ => after⟩
      | ok accepted =>
          rw [validated] at shows
          obtain ⟨decides, stays⟩ := apply_spec tidy shows
          refine ⟨decides.trans ⟨fun whole other ok => ?_,
            fun whole => whole accepted rfl⟩, stays⟩
          cases ok
          exact whole
  | renew => exact always trivial (unchanged_spec tidy shows)
  | tick index family tick => exact always trivial (unchanged_spec tidy shows)

theorem requestsServed {im next : Manager} {event : Event} (tidy : Tidy im)
    (taken : step parsers order im event = some next) :
    RequestsServed im event := by
  cases event with
  | tick index family tick =>
      cases tick with
      | ensure up =>
          cases up with
          | true =>
              by_contra runsNot
              have quiet := tidy.sound.quiet family
                (Bool.not_eq_true _ ▸ runsNot)
              rw [step, Option.map_eq_some_iff] at taken
              obtain ⟨dc, ticked, -⟩ := taken
              simp only [DHCPClient.tick, Option.bind_eq_bind,
                Option.bind_eq_some_iff] at ticked
              obtain ⟨client, here, half, ticked, -⟩ := ticked
              rw [Half.tick, Option.ite_none_right_eq_some] at ticked
              have may : (client family).canSend = true := by
                rw [Half.canSend, ticked.1]
              have running : 0 < liveLoops im family :=
                List.countP_pos_iff.mpr
                  ⟨client, List.mem_of_getElem? here, may⟩
              exact absurd quiet (Nat.ne_of_gt running)
          | false => trivial
      | fire => trivial
      | answer leased => trivial
  | start _ _ => trivial
  | linkUp _ => trivial
  | linkDown => trivial
  | setConfig _ _ => trivial
  | renew => trivial

/-- The request loops are sound all along a run, and every request is sent for
a family with DHCP, exactly when every configuration the run applies leaves the
loops undisturbed. -/
theorem sound_iff_gentle (parsers : Parsers) (order : FieldOrder)
    (config : NetworkConfig) (events : List Event) :
    (AllStates (step parsers order) Sound (initial config) events ∧
      AllSteps (step parsers order) RequestsServed (initial config) events) ↔
      AllSteps (step parsers order) (Gentle parsers order) (initial config)
        events := by
  have keeps : ∀ {im next event}, Tidy im → Gentle parsers order im event →
      step parsers order im event = some next → Tidy next :=
    fun tidy gentle taken =>
      (step_decides tidy taken).2 ((step_decides tidy taken).1.mpr gentle)
  constructor
  · rintro ⟨everywhere, -⟩
    exact (allStates_iff_allSteps Tidy.sound keeps
      (fun tidy taken sound => (step_decides tidy taken).1.mp sound)
      (tidy_initial config) events).mp everywhere
  · intro gentle
    refine ⟨(allStates_of_allSteps keeps (tidy_initial config) gentle).mono
      fun _ tidy => tidy.sound, ?_⟩
    exact allSteps_of_allSteps keeps
      (fun tidy _ taken => requestsServed tidy taken) (tidy_initial config)
      gentle

theorem not_sound_of_exec {config : NetworkConfig} {events : List Event}
    (family : Family) {up runs : Bool} {count : Nat}
    (reaches : (exec (step parsers order) (initial config) events).map
      (fun im => (im.linkUp, serves im.config family, liveLoops im family)) =
      some (up, runs, count))
    (wrong : 2 ≤ count ∨ up = true ∧ runs = true ∧ count = 0) :
    ¬AllStates (step parsers order) Sound (initial config) events := by
  intro everywhere
  obtain ⟨last, ended, found⟩ := Option.map_eq_some_iff.mp reaches
  cases found
  have sound := everywhere.last ended
  rcases wrong with twice | ⟨linkUp, served, without⟩
  · exact absurd (sound.single family) (Nat.not_le.mpr twice)
  · exact absurd (sound.served linkUp family served) (by omega)

def modes (ipv4 ipv6 : String) : NetworkConfig :=
  { ipv4Mode := .of ipv4, ipv6Mode := .of ipv6 }

/-- After the link was down there are two loops, a disabled family still sends
requests, and DHCPv6 beside DHCP has no loop. -/
theorem loops_not_sound :
    ¬AllStates (step .refusing .asListed) Sound
      (initial (modes "dhcp" "disabled"))
      [.start true {}, .linkDown, .linkUp {}] ∧
    ¬AllSteps (step .refusing .asListed) RequestsServed
      (initial (modes "dhcp" "disabled"))
      [.start true {}, .setConfig (modes "disabled" "disabled") {},
        .tick 0 .inet .fire, .tick 0 .inet (.ensure true)] ∧
    ¬AllStates (step .refusing .asListed) Sound
      (initial (modes "dhcp" "dhcpv6")) [.start true {}] :=
  ⟨@not_sound_of_exec _ _ _ _ .inet true true 2 (by decide) (by decide),
    by decide,
    @not_sound_of_exec _ _ _ _ .inet6 true true 0 (by decide) (by decide)⟩

end DhcpLifecycle

end JetKvm
