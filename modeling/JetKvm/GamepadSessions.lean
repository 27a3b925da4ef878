import JetKvm.GamepadSlots
import JetKvm.HidRpcDispatch
import JetKvm.LabelledRuns

/-!
# Gamepad slots of connecting and closing sessions

Each session has a worker that handles its queued HID messages one by one; a
gamepad report in multi-player mode looks up the session's slot and, in a
second critical section, claims one.  The handler of a closed ICE connection
releases the slots of the session and then closes its queues, whose buffered
messages are still handled.  A step is one of these sections, of any session.
-/

namespace JetKvm

namespace Gamepad

open LabelledRuns

inductive Phase where
  | connected
  | released
  | closed
  deriving DecidableEq, Repr

/-- `hidQueue` is the queue of pointer, mouse, wheel and gamepad messages,
`hidQueue[2]`; `claiming` says that its worker found no slot and is about to
claim one. -/
structure Session where
  phase : Phase := .connected
  hidQueue : List (Slice UInt8) := []
  claiming : Bool := false
  deriving DecidableEq, Repr

structure State where
  multiPlayerGamepad : Bool := false
  gamepadSlots : SlotManager := {}
  sessions : String → Option Session := fun _ => none

/-- What the goroutines of one session do. -/
inductive Event where
  | receive (isString : Bool) (data : Slice UInt8)
  | handle
  | claim
  | release
  | closeQueues
  deriving DecidableEq, Repr

inductive Label where
  | newSession (id : String)
  | setMultiPlayerGamepad (enabled : Bool)
  | session (id : String) (event : Event)
  deriving DecidableEq, Repr

/-- The queue of gamepad reports. -/
def gamepadQueueIndex : Nat := 2

/-- Handling a message goes on to claim a slot. -/
def needsClaim (multiPlayerGamepad : Bool) (slots : SlotManager) (id : String) :
    HidRpc.Handled → Bool
  | .call (.gamepadReport report) =>
      (slots.lookupSlot multiPlayerGamepad id report.padIndex).isNone
  | _ => false

/-- One event of a session: the session and the slots after it. -/
def Session.react (multiPlayerGamepad : Bool) (slots : SlotManager)
    (id : String) (session : Session) : Event → Option (Session × SlotManager)
  | .receive isString data =>
      match HidRpc.onDataChannelMessage isString data with
      | .error _ => none
      | .ok queueIndex =>
          if queueIndex = some gamepadQueueIndex ∧ session.phase ≠ .closed then
            -- the send blocks while the queue is full
            if session.hidQueue.length < HidRpc.hidQueueSize then
              some ({ session with hidQueue := session.hidQueue ++ [data] }, slots)
            else none
          else some (session, slots)
  | .handle =>
      match session.claiming, session.hidQueue with
      | false, data :: rest =>
          match HidRpc.onHidMessage false data with
          | .error _ => none
          | .ok handled =>
              some ({ session with
                hidQueue := rest
                claiming := needsClaim multiPlayerGamepad slots id handled }, slots)
      | _, _ => none
  | .claim =>
      if session.claiming then
        some ({ session with claiming := false }, (slots.claim id).2)
      else none
  | .release =>
      if session.phase = .connected then
        some ({ session with phase := .released }, slots.release id)
      else none
  | .closeQueues =>
      if session.phase = .released then
        some ({ session with phase := .closed }, slots)
      else none

def State.setSession (state : State) (id : String) (session : Session) : State :=
  { state with sessions := Function.update state.sessions id (some session) }

def step (state : State) : Label → Option State
  | .newSession id =>
      if id = "" ∨ (state.sessions id).isSome then none
      else some (state.setSession id {})
  | .setMultiPlayerGamepad enabled =>
      some { state with multiPlayerGamepad := enabled }
  | .session id event => do
      let session ← state.sessions id
      let (session, slots) ←
        session.react state.multiPlayerGamepad state.gamepadSlots id event
      return { state.setSession id session with gamepadSlots := slots }

/-- The worker has handled every message and is idle. -/
def Session.Drained (session : Session) : Prop :=
  session.hidQueue = [] ∧ session.claiming = false

/-- No closed and drained session holds a slot. -/
def LeakFree (state : State) : Prop :=
  ∀ id session, state.sessions id = some session → session.phase = .closed →
    session.Drained → ¬ state.gamepadSlots.Held id

/-- Slots are held exclusively, and by no closed and drained session. -/
def SlotsSound (state : State) : Prop :=
  state.gamepadSlots.Exclusive ∧ LeakFree state

/-- The close handler has released the slots of the session. -/
def State.Released (state : State) (id : String) : Prop :=
  ∃ session, state.sessions id = some session ∧ session.phase ≠ .connected

/-- The session claims no slot after its release, unless none is free. -/
def ClaimsInTime (id : String) (state : State) : Label → Prop
  | .session other .claim =>
      other = id → state.Released id → ∀ slot, ¬ state.gamepadSlots.Free slot
  | _ => True

/-- A released session holds no slot. -/
def ReleasedForGood (id : String) (state : State) : Prop :=
  state.Released id → ¬ state.gamepadSlots.Held id

/-! ## What a step does -/

section React

variable {multiPlayerGamepad : Bool} {slots slots' : SlotManager}
variable {id : String} {session session' : Session} {event : Event}

/-- A session changes the slots only in its claim and its release. -/
theorem react_slots
    (taken : session.react multiPlayerGamepad slots id event =
      some (session', slots')) :
    (event = .claim ∧ slots' = (slots.claim id).2 ∧
      session'.phase = session.phase) ∨
    (event = .release ∧ slots' = slots.release id ∧
      session.phase = .connected ∧ session'.phase = .released) ∨
    (event ≠ .claim ∧ slots' = slots ∧
      (session'.phase = .connected ↔ session.phase = .connected)) := by
  cases event with
  | receive isString data =>
      right; right
      simp only [Session.react] at taken
      cases queued : HidRpc.onDataChannelMessage isString data with
      | error panic => simp [queued] at taken
      | ok queueIndex =>
          simp only [queued] at taken
          split_ifs at taken <;> cases taken <;> exact ⟨nofun, rfl, Iff.rfl⟩
  | handle =>
      right; right
      simp only [Session.react] at taken
      split at taken
      · split at taken
        · cases taken
        · cases taken
          exact ⟨nofun, rfl, Iff.rfl⟩
      · cases taken
  | claim =>
      left
      simp only [Session.react] at taken
      split_ifs at taken
      cases taken
      exact ⟨rfl, rfl, rfl⟩
  | release =>
      right; left
      simp only [Session.react] at taken
      split_ifs at taken with connected
      cases taken
      exact ⟨rfl, rfl, connected, rfl⟩
  | closeQueues =>
      right; right
      simp only [Session.react] at taken
      split_ifs at taken with released
      cases taken
      exact ⟨nofun, rfl, by simp [released]⟩

end React

variable {state next : State} {label : Label}

theorem step_session {other : String} {event : Event}
    (taken : step state (.session other event) = some next) :
    ∃ session session' slots', state.sessions other = some session ∧
      session.react state.multiPlayerGamepad state.gamepadSlots other event =
        some (session', slots') ∧
      next = { state.setSession other session' with gamepadSlots := slots' } := by
  simp only [step, Option.bind_eq_bind, Option.bind_eq_some_iff] at taken
  obtain ⟨session, found, ⟨session', slots'⟩, reacts, same⟩ := taken
  exact ⟨session, session', slots', found, reacts, (Option.some.inj same).symm⟩

theorem step_newSession {other : String}
    (taken : step state (.newSession other) = some next) :
    other ≠ "" ∧ state.sessions other = none ∧ next = state.setSession other {} := by
  simp only [step] at taken
  split_ifs at taken with refused
  rw [not_or, Option.not_isSome_iff_eq_none] at refused
  exact ⟨refused.1, refused.2, (Option.some.inj taken).symm⟩

theorem released_setSession_self {id : String} {session : Session} :
    (state.setSession id session).Released id ↔ session.phase ≠ .connected := by
  simp [State.Released, State.setSession]

theorem released_setSession_of_ne {id other : String} {session : Session}
    (different : id ≠ other) :
    (state.setSession other session).Released id ↔ state.Released id := by
  simp [State.Released, State.setSession, Function.update_of_ne different]

/-- What a step means to the session with a given id: it is that session's
claim, or its release, or it changes neither its slots nor whether it is
released. -/
theorem step_cases (id : String) (taken : step state label = some next) :
    (label = .session id .claim ∧ (next.Released id ↔ state.Released id) ∧
      (next.gamepadSlots.Held id ↔ state.gamepadSlots.Held id ∨
        (id ≠ "" ∧ ∃ slot, state.gamepadSlots.Free slot))) ∨
    (label = .session id .release ∧ ¬ state.Released id ∧
      ¬ next.gamepadSlots.Held id) ∨
    (label ≠ .session id .claim ∧ (next.Released id ↔ state.Released id) ∧
      (next.gamepadSlots.Held id ↔ state.gamepadSlots.Held id)) := by
  cases label with
  | newSession other =>
      obtain ⟨-, fresh, rfl⟩ := step_newSession taken
      refine .inr (.inr ⟨nofun, ?_, Iff.rfl⟩)
      by_cases same : id = other
      · subst same
        rw [released_setSession_self]
        simp [State.Released, fresh]
      · exact released_setSession_of_ne same
  | setMultiPlayerGamepad enabled =>
      obtain rfl := Option.some.inj taken
      exact .inr (.inr ⟨nofun, Iff.rfl, Iff.rfl⟩)
  | session other event =>
      obtain ⟨session, session', slots', found, reacts, rfl⟩ := step_session taken
      by_cases same : id = other
      · subst same
        have before : state.Released id ↔ session.phase ≠ .connected := by
          simp [State.Released, found]
        have after : (state.setSession id session').Released id ↔
            session'.phase ≠ .connected := released_setSession_self
        rcases react_slots reacts with
          ⟨rfl, rfl, phase⟩ | ⟨rfl, rfl, connected, -⟩ | ⟨event_ne, rfl, phase⟩
        · refine .inl ⟨rfl, ?_, ?_⟩
          · exact after.trans (by rw [before, phase])
          · simp [SlotManager.held_claim]
        · refine .inr (.inl ⟨rfl, ?_, ?_⟩)
          · simp [before, connected]
          · simp
        · refine .inr (.inr ⟨by simpa using event_ne, ?_, Iff.rfl⟩)
          exact after.trans ((not_congr phase).trans before.symm)
      · have otherLabel : Label.session other event ≠ .session id .claim := by
          rintro ⟨⟩
          exact same rfl
        refine .inr (.inr ⟨otherLabel, released_setSession_of_ne same, ?_⟩)
        rcases react_slots reacts with
          ⟨-, rfl, -⟩ | ⟨-, rfl, -, -⟩ | ⟨-, rfl, -⟩
        · simp [SlotManager.held_claim, same]
        · simp [same]
        · exact Iff.rfl

/-! ## Slots of one session over a run -/

theorem ReleasedForGood.step {id : String} (released : ReleasedForGood id state)
    (inTime : ClaimsInTime id state label) (taken : step state label = some next) :
    ReleasedForGood id next := by
  intro releasedNext
  rcases step_cases id taken with
    ⟨rfl, phase, held⟩ | ⟨-, -, notHeld⟩ | ⟨-, phase, held⟩
  · have releasedBefore := phase.mp releasedNext
    rw [held]
    rintro (heldBefore | ⟨-, slot, free⟩)
    · exact released releasedBefore heldBefore
    · exact inTime rfl releasedBefore slot free
  · exact notHeld
  · rw [held]
    exact released (phase.mp releasedNext)

theorem ReleasedForGood.claimsInTime {id : String} (nonempty : id ≠ "")
    (taken : Gamepad.step state label = some next)
    (afterwards : ReleasedForGood id next) : ClaimsInTime id state label := by
  rcases step_cases id taken with
    ⟨rfl, phase, held⟩ | ⟨rfl, -, -⟩ | ⟨other, -, -⟩
  · intro _ releasedBefore slot free
    exact afterwards (phase.mpr releasedBefore)
      (held.mpr (.inr ⟨nonempty, slot, free⟩))
  · trivial
  · unfold ClaimsInTime
    split
    · rintro rfl
      exact absurd rfl other
    · trivial

/-- A slot a released session holds is never freed. -/
theorem leak_stays {id : String} (leaked : ¬ ReleasedForGood id state)
    (taken : step state label = some next) : ¬ ReleasedForGood id next := by
  unfold ReleasedForGood at leaked ⊢
  rw [Classical.not_imp, not_not] at leaked ⊢
  rcases step_cases id taken with
    ⟨-, phase, held⟩ | ⟨-, notReleased, -⟩ | ⟨-, phase, held⟩
  · exact ⟨phase.mpr leaked.1, held.mpr (.inl leaked.2)⟩
  · exact absurd leaked.1 notReleased
  · exact ⟨phase.mpr leaked.1, held.mpr leaked.2⟩

theorem releasedForGood_initial (id : String) : ReleasedForGood id {} := by
  rintro ⟨session, found, -⟩
  cases found

theorem releasedForGood_iff {id : String} (nonempty : id ≠ "")
    {labels : List Label} {last : State}
    (reaches : exec step {} labels = some last) :
    ReleasedForGood id last ↔ AllSteps step (ClaimsInTime id) {} labels := by
  rw [← allStates_iff_last leak_stays reaches]
  exact allStates_iff_allSteps (fun {_} released => released)
    (fun released inTime taken => released.step inTime taken)
    (fun _ taken afterwards => afterwards.claimsInTime nonempty taken)
    (releasedForGood_initial id) labels

/-! ## Slots of all sessions -/

/-- Slots are held exclusively and by known sessions. -/
structure State.Invariant (state : State) : Prop where
  exclusive : state.gamepadSlots.Exclusive
  known : ∀ id, state.gamepadSlots.Held id → (state.sessions id).isSome
  named : state.sessions "" = none

theorem State.Invariant.initial : State.Invariant {} where
  exclusive := SlotManager.exclusive_empty
  known := fun id held => absurd held (SlotManager.not_held_empty id)
  named := rfl

theorem isSome_setSession {id other : String} {session : Session} :
    ((state.setSession other session).sessions id).isSome ↔
      id = other ∨ (state.sessions id).isSome := by
  by_cases same : id = other
  · simp [State.setSession, same]
  · simp [State.setSession, Function.update_of_ne, same]

theorem named_setSession {other : String} {session : Session}
    (named : state.sessions "" = none) (nonempty : other ≠ "") :
    (state.setSession other session).sessions "" = none := by
  rw [State.setSession]
  exact (Function.update_of_ne nonempty.symm _ _).trans named

theorem State.Invariant.step (invariant : state.Invariant)
    (taken : Gamepad.step state label = some next) : next.Invariant := by
  cases label with
  | newSession other =>
      obtain ⟨nonempty, -, rfl⟩ := step_newSession taken
      refine ⟨invariant.exclusive, ?_, named_setSession invariant.named nonempty⟩
      intro id held
      exact isSome_setSession.mpr (.inr (invariant.known id held))
  | setMultiPlayerGamepad enabled =>
      obtain rfl := Option.some.inj taken
      exact ⟨invariant.exclusive, invariant.known, invariant.named⟩
  | session other event =>
      obtain ⟨session, session', slots', found, reacts, rfl⟩ := step_session taken
      have nonempty : other ≠ "" := by
        rintro rfl
        rw [invariant.named] at found
        cases found
      suffices slots'.Exclusive ∧ ∀ id, slots'.Held id →
          id = other ∨ state.gamepadSlots.Held id by
        obtain ⟨exclusive, holders⟩ := this
        refine ⟨exclusive, fun id held => ?_,
          named_setSession invariant.named nonempty⟩
        apply isSome_setSession.mpr
        exact (holders id held).imp_right (invariant.known id)
      rcases react_slots reacts with ⟨-, rfl, -⟩ | ⟨-, rfl, -, -⟩ | ⟨-, rfl, -⟩
      · refine ⟨invariant.exclusive.claim other, fun id held => ?_⟩
        rcases SlotManager.held_claim.mp held with before | ⟨same, -⟩
        · exact .inr before
        · exact .inl same
      · refine ⟨invariant.exclusive.release other, fun id held => ?_⟩
        exact .inr (SlotManager.held_release.mp held).2
      · exact ⟨invariant.exclusive, fun id held => .inr held⟩

theorem State.Invariant.of_run {labels : List Label} {last : State}
    (reaches : exec Gamepad.step {} labels = some last) : last.Invariant :=
  (allStates_of_invariant (fun invariant taken => invariant.step taken)
    State.Invariant.initial labels).last reaches

/-- After any run the slots are held exclusively, and no closed and drained
session holds one exactly when none of them claimed a free slot after its
release. -/
theorem slotsSound_iff_claimsInTime {labels : List Label} {last : State}
    (reaches : exec step {} labels = some last) :
    SlotsSound last ↔
      ∀ id session, last.sessions id = some session → session.phase = .closed →
        session.Drained → AllSteps step (ClaimsInTime id) {} labels := by
  have invariant := State.Invariant.of_run reaches
  have ofClosed : ∀ id session, last.sessions id = some session →
      session.phase = .closed →
      (¬ last.gamepadSlots.Held id ↔ AllSteps step (ClaimsInTime id) {} labels) := by
    intro id session found closed
    have nonempty : id ≠ "" := by
      rintro rfl
      rw [invariant.named] at found
      cases found
    have released : last.Released id := ⟨session, found, by simp [closed]⟩
    rw [← releasedForGood_iff nonempty reaches]
    exact (imp_iff_right released).symm
  rw [SlotsSound, and_iff_right invariant.exclusive]
  constructor
  · intro leakFree id session found closed drained
    exact (ofClosed id session found closed).mp
      (leakFree id session found closed drained)
  · intro inTime id session found closed drained
    exact (ofClosed id session found closed).mpr
      (inTime id session found closed drained)

/-- A session reports, is closed, and its buffered report is handled. -/
def lateReport (id : String) : List Label :=
  [.newSession id, .session id (.receive false
      ⟨[0x0A, 0, 128, 128, 128, 128, 0, 0, 0, 0, 0, 1], []⟩),
    .session id .release, .session id .closeQueues, .session id .handle,
    .session id .claim]

/-- The late report takes a slot that nothing frees. -/
theorem late_report_leaks_slot :
    ¬ ∀ last, exec step {}
        (.setMultiPlayerGamepad true :: lateReport "a") = some last →
      SlotsSound last := by
  intro sound
  obtain ⟨-, leakFree⟩ := sound _ rfl
  exact leakFree "a" { phase := .closed } rfl rfl ⟨rfl, rfl⟩
    ⟨⟨0, by decide⟩, by decide, rfl⟩

/-- With multi-player mode off the late report takes none. -/
theorem slotsSound_iff_claimsInTime_singlePlayer :
    ∃ last, exec step {} ((lateReport "a").take 5) = some last ∧
      (SlotsSound last ↔
        ∀ id session, last.sessions id = some session →
          session.phase = .closed → session.Drained →
            AllSteps step (ClaimsInTime id) {} ((lateReport "a").take 5)) :=
  ⟨_, rfl, slotsSound_iff_claimsInTime rfl⟩

end Gamepad

end JetKvm
