import JetKvm.GamepadSessions
import JetKvm.Noninterference
import JetKvm.SessionDataChannels

/-!
# Isolation of gamepad players

Multi-player mode is on.  A binary gamepad report is queued, its sender's slot
is looked up or claimed, and the report is written to that slot; a JSON-RPC
`gamepadReport` is handled by a goroutine of its own and written to the slot it
names.  Looking up, claiming and writing are separate steps, and a session can
be closed between any two of them.
-/

namespace JetKvm

namespace Gamepad

namespace Isolation

open LabelledRuns

/-- `usbgadget.GamepadReport` -/
structure Report where
  leftStickX : UInt8
  leftStickY : UInt8
  rightStickX : UInt8
  rightStickY : UInt8
  leftTrigger : UInt8
  rightTrigger : UInt8
  buttons : UInt32
  deriving DecidableEq, Repr

/-- The bytes of one report, as many as the HID function declares. -/
abbrev HidReport := Vector UInt8 9

def Report.bytes (r : Report) : HidReport :=
  let buttons := r.buttons &&& 0x1FFFF
  #v[r.leftStickX, r.leftStickY, r.rightStickX, r.rightStickY, r.leftTrigger,
    r.rightTrigger, (buttons &&& 0xFF).toUInt8, ((buttons >>> 8) &&& 0xFF).toUInt8,
    ((buttons >>> 16) &&& 0x01).toUInt8]

/-- The report a binary message carries, without its pad index. -/
def Report.ofMessage (report : HidRpc.GamepadReport) : Report where
  leftStickX := report.lx
  leftStickY := report.ly
  rightStickX := report.rx
  rightStickY := report.ry
  leftTrigger := report.lt
  rightTrigger := report.rt
  buttons := report.buttons

/-- `ready` is `usbReadyForHidReports()`, `gamepad` is `enabledDevices.Gamepad`. -/
structure Usb where
  ready : Bool := false
  gamepad : Bool := false
  deriving DecidableEq, Repr

/-- A report written to a slot's HID file. -/
abbrev Write := Fin maxGamepads × HidReport

/-- `GamepadInputReport`: the write it makes. -/
def gamepadInputReport (usb : Usb) (idx : Int) (r : Report) :
    Except String (Option Write) :=
  if !usb.gamepad then .ok none
  else if outside : idx < 0 ∨ idx ≥ maxGamepads then
    .error s!"gamepad index {idx} out of range"
  else .ok (some (⟨idx.toNat, by omega⟩, r.bytes))

/-- `rpcGamepadReport`, inside `rpcHidReport`. -/
def rpcGamepadReport (usb : Usb) (padIndex : Int) (r : Report) :
    Except String (Option Write) :=
  if !usb.ready then .ok none else gamepadInputReport usb padIndex r

/-- What reaches the host; a write to the HID file can fail. -/
def written (delivered : Bool) : Except String (Option Write) → Option Write
  | .ok write => if delivered then write else none
  | .error _ => none

/-- JSON-RPC; `gamepadArguments` is the conversion `riskyCallRPCHandler` makes
of the parameters of `gamepadReport`. -/
structure Rpc where
  json : DataChannels.JsonRpc
  gamepadArguments : String → Except String (Int × Report)

/-- The pad index and the report of a message that calls `gamepadReport`. -/
def Rpc.gamepadCall (rpc : Rpc) (isAdmin : Bool) (data : List UInt8) :
    Option (Int × Report) :=
  match (DataChannels.onRPCMessage rpc.json isAdmin data).1 with
  | [.callRPCHandler method params] =>
      if method = "gamepadReport" then
        match rpc.gamepadArguments params with
        | .ok arguments => some arguments
        | .error _ => none
      else none
  | _ => none

/-- The worker of `hidQueue[2]`: between two messages, before the claim of a
slot, or before the write to the slot it got. -/
inductive Worker where
  | idle
  | claiming (report : Report)
  | writing (slot : Fin maxGamepads) (report : Report)
  deriving DecidableEq, Repr

/-- `rpcCalls` are the JSON-RPC messages whose goroutine has not yet called its
handler. -/
structure Session where
  isAdmin : Bool
  phase : Phase := .connected
  hidQueue : List (Slice UInt8) := []
  worker : Worker := .idle
  rpcCalls : List (List UInt8) := []
  deriving DecidableEq, Repr

structure State where
  usb : Usb := {}
  gamepadSlots : SlotManager := {}
  /-- The reports each slot has given the host, in order. -/
  reports : Fin maxGamepads → List HidReport := fun _ => []
  sessions : String → Option Session := fun _ => none

/-- What the goroutines of one session do. -/
inductive Event where
  | receive (isString : Bool) (data : Slice UInt8)
  | handle
  | claim
  | write (delivered : Bool)
  | receiveRpc (data : List UInt8)
  | handleRpc (index : Nat) (delivered : Bool)
  | release
  | closeQueues
  deriving DecidableEq, Repr

inductive Label where
  | newSession (id : String) (isAdmin : Bool)
  | setUsb (usb : Usb)
  | session (id : String) (event : Event)
  deriving DecidableEq, Repr

/-- The worker after it looked up the slot for a report. -/
def Worker.afterLookup (report : Report) : Option (Fin maxGamepads) → Worker
  | some slot => .writing slot report
  | none => .claiming report

/-- The worker after its claim; without a slot the report is dropped. -/
def Worker.afterClaim (report : Report) : Option (Fin maxGamepads) → Worker
  | some slot => .writing slot report
  | none => .idle

/-- One event of a session: the session and the slots after it, and the report
it writes. -/
def Session.react (rpc : Rpc) (usb : Usb) (slots : SlotManager) (id : String)
    (session : Session) : Event → Option (Session × SlotManager × Option Write)
  | .receive isString data =>
      match HidRpc.onDataChannelMessage isString data with
      | .error _ => none
      | .ok queueIndex =>
          if queueIndex = some gamepadQueueIndex ∧ session.phase ≠ .closed then
            -- the send blocks while the queue is full
            if session.hidQueue.length < HidRpc.hidQueueSize then
              some ({ session with hidQueue := session.hidQueue ++ [data] },
                slots, none)
            else none
          else some (session, slots, none)
  | .handle =>
      match session.worker, session.hidQueue with
      | .idle, data :: rest =>
          match HidRpc.onHidMessage false data with
          | .error _ => none
          | .ok (.call (.gamepadReport report)) =>
              -- the pad index of the message is not read
              some ({ session with
                hidQueue := rest
                worker := .afterLookup (.ofMessage report) (slots.slotFor id) },
                slots, none)
          | .ok _ => some ({ session with hidQueue := rest }, slots, none)
      | _, _ => none
  | .claim =>
      match session.worker with
      | .claiming report =>
          some ({ session with
            worker := .afterClaim report (slots.claim id).1 },
            (slots.claim id).2, none)
      | _ => none
  | .write delivered =>
      match session.worker with
      | .writing slot report =>
          some ({ session with worker := .idle }, slots,
            written delivered (rpcGamepadReport usb slot report))
      | _ => none
  | .receiveRpc data =>
      -- a send on the nil queue of a closed session blocks
      if session.phase ≠ .closed then
        some ({ session with rpcCalls := session.rpcCalls ++ [data] },
          slots, none)
      else none
  | .handleRpc index delivered =>
      match session.rpcCalls[index]? with
      | none => none
      | some data =>
          some ({ session with rpcCalls := session.rpcCalls.eraseIdx index },
            slots,
            match rpc.gamepadCall session.isAdmin data with
            | some (padIndex, report) =>
                written delivered (rpcGamepadReport usb padIndex report)
            | none => none)
  | .release =>
      if session.phase = .connected then
        some ({ session with phase := .released }, slots.release id, none)
      else none
  | .closeQueues =>
      if session.phase = .released then
        some ({ session with phase := .closed }, slots, none)
      else none

def State.setSession (state : State) (id : String) (session : Session) : State :=
  { state with sessions := Function.update state.sessions id (some session) }

def State.record (state : State) : Option Write → State
  | none => state
  | some (slot, report) =>
      { state with
        reports :=
          Function.update state.reports slot (state.reports slot ++ [report]) }

def step (rpc : Rpc) (state : State) : Label → Option State
  | .newSession id isAdmin =>
      if id = "" ∨ (state.sessions id).isSome then none
      else some (state.setSession id { isAdmin := isAdmin })
  | .setUsb usb => some { state with usb := usb }
  | .session id event => do
      let session ← state.sessions id
      let (session, slots, write) ←
        session.react rpc state.usb state.gamepadSlots id event
      return ({ state.setSession id session with gamepadSlots := slots }).record
        write

/-- A step changes the reports of no slot but that of the session it is a step
of. -/
def Isolated (rpc : Rpc) (state : State) (label : Label) : Prop :=
  ∀ next slot, step rpc state label = some next →
    next.reports slot ≠ state.reports slot →
      ∃ id event, label = .session id event ∧
        state.gamepadSlots.slotFor id = some slot

/-- A report that reaches the host finds its sender's slot: the slot of a binary
report has not been released since it was looked up, and a JSON-RPC report
names the slot its sender holds. -/
def OnOwnSlot (rpc : Rpc) (state : State) : Label → Prop
  | .session id (.write true) =>
      state.usb.ready → state.usb.gamepad → state.gamepadSlots.Held id
  | .session id (.handleRpc index true) =>
      state.usb.ready → state.usb.gamepad →
        ∀ session data padIndex report slot,
          state.sessions id = some session →
            session.rpcCalls[index]? = some data →
              rpc.gamepadCall session.isAdmin data = some (padIndex, report) →
                padIndex = (Fin.val slot : Int) →
                  state.gamepadSlots.Holds slot id
  | _ => True

/-- The session is not refused a slot because all are taken. -/
def NotRefused (id : String) (state : State) : Label → Prop
  | .session other .claim =>
      other = id → state.gamepadSlots.Held id ∨ ∃ slot, state.gamepadSlots.Free slot
  | _ => True

/-- The reports a step adds to the slot that the session holds. -/
def gained (id : String) (state next : State) : List HidReport :=
  match state.gamepadSlots.slotFor id with
  | some slot => (next.reports slot).drop (state.reports slot).length
  | none => []

/-- The labels of the session with this id and of the USB host. -/
def concerns (id : String) : Label → Bool
  | .newSession other _ => other = id
  | .setUsb _ => true
  | .session other _ => other = id

/-! ## Slots and writes -/

section Slots

variable {slots : SlotManager} {id other : String} {slot : Fin maxGamepads}

theorem holds_of_slotFor (nonempty : id ≠ "")
    (found : slots.slotFor id = some slot) : slots.Holds slot id :=
  ⟨nonempty, SlotManager.occupied_of_firstHeldBy found⟩

theorem not_held_of_slotFor (missing : slots.slotFor id = none) :
    ¬ slots.Held id := by
  rintro ⟨slot, -, holds⟩
  exact SlotManager.firstHeldBy_eq_none_iff.mp missing slot holds

/-- The slot a session looks up is the one it holds. -/
theorem slotFor_eq_some_iff (exclusive : slots.Exclusive) (nonempty : id ≠ "") :
    slots.slotFor id = some slot ↔ slots.Holds slot id := by
  constructor
  · exact holds_of_slotFor nonempty
  · intro holds
    cases found : slots.slotFor id with
    | none => exact absurd ⟨slot, holds⟩ (not_held_of_slotFor found)
    | some first =>
        have same := exclusive first slot id id
          (holds_of_slotFor nonempty found) holds
        rw [same.mpr rfl]

theorem holds_claim (claims : (slots.claim id).1 = some slot) :
    (slots.claim id).2.Holds slot id := by
  unfold SlotManager.claim at claims ⊢
  by_cases isEmpty : id = ""
  · rw [if_pos isEmpty] at claims
    cases claims
  · rw [if_neg isEmpty] at claims ⊢
    cases held : slots.firstHeldBy id with
    | some first =>
        simp only [held] at claims ⊢
        obtain rfl := Option.some.inj claims
        exact ⟨isEmpty, SlotManager.occupied_of_firstHeldBy held⟩
    | none =>
        cases free : slots.firstHeldBy "" with
        | none => simp [held, free] at claims
        | some first =>
            simp only [held, free] at claims ⊢
            obtain rfl := Option.some.inj claims
            rw [SlotManager.holds_assign isEmpty
              (SlotManager.occupied_of_firstHeldBy free)]
            exact .inl ⟨rfl, rfl⟩

variable {usb : Usb} {delivered : Bool} {padIndex : Int} {report : Report}
variable {bytes : HidReport}

/-- A report is written when it is delivered, the host is ready, gamepads are
enabled and the index is one of a slot; then it goes to that slot. -/
theorem written_eq_some_iff :
    written delivered (rpcGamepadReport usb padIndex report) =
        some (slot, bytes) ↔
      delivered = true ∧ usb.ready = true ∧ usb.gamepad = true ∧
        padIndex = (slot.val : Int) ∧ report.bytes = bytes := by
  have range := slot.isLt
  cases delivered with
  | false =>
      simp only [Bool.false_eq_true, false_and, iff_false]
      unfold written
      split <;> simp
  | true =>
      obtain ⟨ready, gamepad⟩ := usb
      cases ready with
      | false => simp [rpcGamepadReport, written]
      | true =>
          cases gamepad with
          | false => simp [rpcGamepadReport, gamepadInputReport, written]
          | true =>
              by_cases outside : padIndex < 0 ∨ padIndex ≥ maxGamepads
              · simp [rpcGamepadReport, gamepadInputReport, written, outside]
                omega
              · simp [rpcGamepadReport, gamepadInputReport, written, outside,
                  Fin.ext_iff]
                omega

end Slots

/-! ## What an event of a session does -/

section React

variable {rpc : Rpc} {usb : Usb} {slots slots' : SlotManager} {id : String}
variable {session session' : Session} {event : Event} {write : Option Write}

/-- A session changes the slots only in its claim and its release. -/
theorem react_slots
    (taken : session.react rpc usb slots id event =
      some (session', slots', write)) :
    (event = .claim ∧ slots' = (slots.claim id).2) ∨
    (event = .release ∧ slots' = slots.release id) ∨
    (event ≠ .claim ∧ event ≠ .release ∧ slots' = slots) := by
  cases event <;> simp only [Session.react] at taken
  case claim =>
    left
    split at taken
    · cases taken
      exact ⟨rfl, rfl⟩
    · cases taken
  case release =>
    right; left
    split_ifs at taken
    cases taken
    exact ⟨rfl, rfl⟩
  all_goals
    right; right
    refine ⟨nofun, nofun, ?_⟩
    (repeat' split at taken) <;> cases taken <;> rfl

/-- The other sessions keep their slots. -/
theorem react_holds_of_ne {other : String} (different : other ≠ id)
    (taken : session.react rpc usb slots id event =
      some (session', slots', write)) (slot : Fin maxGamepads) :
    slots'.Holds slot other ↔ slots.Holds slot other := by
  rcases react_slots taken with ⟨-, rfl⟩ | ⟨-, rfl⟩ | ⟨-, -, rfl⟩
  · obtain ⟨same, -⟩ | ⟨assigned, nonempty, free, -, claims⟩ :=
      SlotManager.claim_cases slots id
    · rw [same]
    · rw [claims, SlotManager.holds_assign nonempty free]
      simp [different]
  · rw [SlotManager.holds_release]
    exact and_iff_right different
  · exact Iff.rfl

theorem react_exclusive (exclusive : slots.Exclusive)
    (taken : session.react rpc usb slots id event =
      some (session', slots', write)) : slots'.Exclusive := by
  rcases react_slots taken with ⟨-, rfl⟩ | ⟨-, rfl⟩ | ⟨-, -, rfl⟩
  · exact exclusive.claim id
  · exact exclusive.release id
  · exact exclusive

/-- The worker is about to write to the slot the session holds, unless the slot
has been released. -/
def Session.WritesOwn (session : Session) (slots : SlotManager) (id : String) :
    Prop :=
  ∀ slot report, session.worker = .writing slot report → slots.Held id →
    slots.Holds slot id

theorem react_writesOwn (nonempty : id ≠ "")
    (own : session.WritesOwn slots id)
    (taken : session.react rpc usb slots id event =
      some (session', slots', write)) : session'.WritesOwn slots' id := by
  intro slot report writing held
  cases event <;> simp only [Session.react] at taken
  case handle =>
    split at taken
    · split at taken
      · cases taken
      · cases taken
        cases found : slots.slotFor id with
        | none => simp [Worker.afterLookup, found] at writing
        | some first =>
            simp only [Worker.afterLookup, found] at writing
            cases writing
            exact holds_of_slotFor nonempty found
      · rename_i idle _ _ _ _ _
        cases taken
        exact nomatch idle.symm.trans writing
    · cases taken
  case claim =>
    split at taken
    · cases taken
      cases claims : (slots.claim id).1 with
      | none => simp [Worker.afterClaim, claims] at writing
      | some first =>
          simp only [Worker.afterClaim, claims] at writing
          cases writing
          exact holds_claim claims
    · cases taken
  case write =>
    split at taken
    · cases taken
      cases writing
    · cases taken
  case release =>
    split_ifs at taken
    cases taken
    simp at held
  all_goals
    (repeat' split at taken) <;> cases taken <;>
      exact own slot report writing held

/-- What a session writes is the report its worker holds, on the slot it got,
or the report of a JSON-RPC call, on the slot that the call names. -/
theorem react_write {slot : Fin maxGamepads} {bytes : HidReport}
    (taken : session.react rpc usb slots id event =
      some (session', slots', some (slot, bytes))) :
    usb.ready = true ∧ usb.gamepad = true ∧
      ((event = .write true ∧ ∃ report, session.worker = .writing slot report) ∨
        ∃ index data report, event = .handleRpc index true ∧
          session.rpcCalls[index]? = some data ∧
          rpc.gamepadCall session.isAdmin data =
            some ((slot.val : Int), report)) := by
  cases event <;> simp only [Session.react] at taken
  case write delivered =>
    split at taken
    · rename_i target report writing
      rw [Option.some.injEq, Prod.mk.injEq, Prod.mk.injEq] at taken
      obtain ⟨rfl, ready, gamepad, same, -⟩ := written_eq_some_iff.mp taken.2.2
      obtain rfl : target = slot := Fin.ext (Int.ofNat.inj same)
      exact ⟨ready, gamepad, .inl ⟨rfl, report, writing⟩⟩
    · cases taken
  case handleRpc index delivered =>
    split at taken
    · cases taken
    · rename_i data found
      rw [Option.some.injEq, Prod.mk.injEq, Prod.mk.injEq] at taken
      obtain ⟨-, -, writes⟩ := taken
      split at writes
      · rename_i padIndex report call
        obtain ⟨rfl, ready, gamepad, same, -⟩ := written_eq_some_iff.mp writes
        exact ⟨ready, gamepad,
          .inr ⟨index, data, report, rfl, found, same ▸ call⟩⟩
      · cases writes
  all_goals (repeat' split at taken) <;> cases taken

end React

/-! ## Isolation over a run -/

variable {rpc : Rpc} {state next : State} {label : Label}

@[simp]
theorem record_gamepadSlots (write : Option Write) :
    (state.record write).gamepadSlots = state.gamepadSlots := by
  cases write <;> rfl

@[simp]
theorem record_sessions (write : Option Write) :
    (state.record write).sessions = state.sessions := by
  cases write <;> rfl

@[simp]
theorem record_usb (write : Option Write) :
    (state.record write).usb = state.usb := by
  cases write <;> rfl

theorem record_reports_ne_iff {write : Option Write} {slot : Fin maxGamepads} :
    (state.record write).reports slot ≠ state.reports slot ↔
      ∃ bytes, write = some (slot, bytes) := by
  cases write with
  | none => simp [State.record]
  | some written =>
      obtain ⟨target, bytes⟩ := written
      by_cases same : slot = target
      · subst same
        simp [State.record]
      · simp [State.record, Function.update_of_ne same, Ne.symm same]

theorem step_session {id : String} {event : Event}
    (taken : step rpc state (.session id event) = some next) :
    ∃ session session' slots' write, state.sessions id = some session ∧
      session.react rpc state.usb state.gamepadSlots id event =
        some (session', slots', write) ∧
      next = ({ state.setSession id session' with
        gamepadSlots := slots' }).record write := by
  simp only [step, Option.bind_eq_bind, Option.bind_eq_some_iff] at taken
  obtain ⟨session, found, ⟨session', slots', write⟩, reacts, same⟩ := taken
  exact ⟨session, session', slots', write, found, reacts,
    (Option.some.inj same).symm⟩

theorem step_newSession {id : String} {isAdmin : Bool}
    (taken : step rpc state (.newSession id isAdmin) = some next) :
    id ≠ "" ∧ state.sessions id = none ∧
      next = state.setSession id { isAdmin := isAdmin } := by
  simp only [step] at taken
  split_ifs at taken with refused
  rw [not_or, Option.not_isSome_iff_eq_none] at refused
  exact ⟨refused.1, refused.2, (Option.some.inj taken).symm⟩

/-- Slots are held exclusively, and a worker writes to the slot its session
holds, if it still holds one. -/
structure State.Sound (state : State) : Prop where
  exclusive : state.gamepadSlots.Exclusive
  named : state.sessions "" = none
  writesOwn : ∀ id session, state.sessions id = some session →
    session.WritesOwn state.gamepadSlots id

theorem State.Sound.initial : State.Sound {} where
  exclusive := SlotManager.exclusive_empty
  named := rfl
  writesOwn := nofun

theorem State.Sound.nonempty (sound : state.Sound) {id : String}
    {session : Session} (found : state.sessions id = some session) : id ≠ "" := by
  rintro rfl
  rw [sound.named] at found
  cases found

theorem State.Sound.step (sound : state.Sound)
    (taken : Isolation.step rpc state label = some next) : next.Sound := by
  cases label with
  | newSession id isAdmin =>
      obtain ⟨nonempty, fresh, rfl⟩ := step_newSession taken
      refine ⟨sound.exclusive, ?_, ?_⟩
      · exact (Function.update_of_ne nonempty.symm _ _).trans sound.named
      · intro other session found
        by_cases same : other = id
        · subst same
          obtain rfl : { isAdmin := isAdmin } = session := by
            simpa [State.setSession] using found
          exact nofun
        · have before : state.sessions other = some session :=
            (Function.update_of_ne same _ _).symm.trans found
          exact sound.writesOwn other session before
  | setUsb usb =>
      obtain rfl := Option.some.inj taken
      exact ⟨sound.exclusive, sound.named, sound.writesOwn⟩
  | session id event =>
      obtain ⟨session, session', slots', write, found, reacts, rfl⟩ :=
        step_session taken
      have nonempty := sound.nonempty found
      refine ⟨?_, ?_, ?_⟩
      · rw [record_gamepadSlots]
        exact react_exclusive sound.exclusive reacts
      · rw [record_sessions]
        exact (Function.update_of_ne nonempty.symm _ _).trans sound.named
      · rw [record_gamepadSlots, record_sessions]
        intro other otherSession otherFound
        by_cases same : other = id
        · subst same
          obtain rfl : session' = otherSession := by
            simpa [State.setSession] using otherFound
          exact react_writesOwn nonempty (sound.writesOwn other session found)
            reacts
        · have before : state.sessions other = some otherSession :=
            (Function.update_of_ne same _ _).symm.trans otherFound
          have frame := react_holds_of_ne same reacts
          intro slot report writing held
          rw [frame]
          exact sound.writesOwn other otherSession before slot report writing
            (held.imp fun slot => (frame slot).mp)

/-- The write of a step that meets the condition goes to the slot of the
session. -/
theorem holds_of_onOwnSlot (sound : state.Sound) {id : String} {event : Event}
    (own : OnOwnSlot rpc state (.session id event)) {session session' : Session}
    {slots' : SlotManager} {slot : Fin maxGamepads} {bytes : HidReport}
    (found : state.sessions id = some session)
    (reacts : session.react rpc state.usb state.gamepadSlots id event =
      some (session', slots', some (slot, bytes))) :
    state.gamepadSlots.Holds slot id := by
  obtain ⟨ready, gamepad, ⟨rfl, report, writing⟩ |
    ⟨index, data, report, rfl, queued, call⟩⟩ := react_write reacts
  · exact sound.writesOwn id session found slot report writing
      (own ready gamepad)
  · exact own ready gamepad session data _ report slot found queued call rfl

/-- A write that an isolated step makes is on the slot of its session. -/
theorem Isolated.holds (sound : state.Sound) {id : String} {event : Event}
    (isolated : Isolated rpc state (.session id event))
    {session session' : Session} {slots' : SlotManager}
    {slot : Fin maxGamepads} {bytes : HidReport}
    (found : state.sessions id = some session)
    (reacts : session.react rpc state.usb state.gamepadSlots id event =
      some (session', slots', some (slot, bytes))) :
    state.gamepadSlots.Holds slot id := by
  have taken : step rpc state (.session id event) =
      some (({ state.setSession id session' with
        gamepadSlots := slots' }).record (some (slot, bytes))) := by
    simp [step, found, reacts]
  obtain ⟨_, _, same, assigned⟩ := isolated _ slot taken
    (record_reports_ne_iff.mpr ⟨bytes, rfl⟩)
  obtain ⟨rfl, rfl⟩ := Label.session.inj same
  exact holds_of_slotFor (sound.nonempty found) assigned

/-- A step is isolated exactly when the report it writes is on its sender's own
slot. -/
theorem isolated_iff (sound : state.Sound)
    (enabled : step rpc state label = some next) :
    Isolated rpc state label ↔ OnOwnSlot rpc state label := by
  constructor
  · intro isolated
    unfold OnOwnSlot
    split
    · rename_i id
      intro ready gamepad
      obtain ⟨session, session', slots', write, found, reacts, -⟩ :=
        step_session enabled
      cases writing : session.worker with
      | writing slot report =>
          have writes : write = some (slot, report.bytes) := by
            simp only [Session.react, writing, Option.some.injEq,
              Prod.mk.injEq] at reacts
            rw [← reacts.2.2]
            exact written_eq_some_iff.mpr ⟨rfl, ready, gamepad, rfl, rfl⟩
          subst writes
          exact ⟨slot, isolated.holds sound found reacts⟩
      | idle => simp [Session.react, writing] at reacts
      | claiming report => simp [Session.react, writing] at reacts
    · rename_i id index
      intro ready gamepad session data padIndex report slot found queued call same
      obtain ⟨_, session', slots', write, found', reacts, -⟩ :=
        step_session enabled
      obtain rfl := Option.some.inj (found.symm.trans found')
      have writes : write = some (slot, report.bytes) := by
        simp only [Session.react, queued, call, Option.some.injEq,
          Prod.mk.injEq] at reacts
        rw [← reacts.2.2]
        exact written_eq_some_iff.mpr ⟨rfl, ready, gamepad, same, rfl⟩
      subst writes
      exact isolated.holds sound found reacts
    · trivial
  · intro own next slot taken changes
    cases label with
    | newSession id isAdmin =>
        obtain ⟨-, -, rfl⟩ := step_newSession taken
        exact absurd rfl changes
    | setUsb usb =>
        obtain rfl := Option.some.inj taken
        exact absurd rfl changes
    | session id event =>
        obtain ⟨session, session', slots', write, found, reacts, rfl⟩ :=
          step_session taken
        obtain ⟨bytes, rfl⟩ := record_reports_ne_iff.mp changes
        refine ⟨id, event, rfl, ?_⟩
        rw [slotFor_eq_some_iff sound.exclusive (sound.nonempty found)]
        exact holds_of_onOwnSlot sound own found reacts

/-! ## A player in a crowd -/

def firstSlot : Fin maxGamepads := ⟨0, by decide⟩

/-- The worker with its slot called the first. -/
def Worker.alone : Worker → Worker
  | .writing _ report => .writing firstSlot report
  | worker => worker

def Session.alone (session : Session) : Session :=
  { session with worker := session.worker.alone }

/-- The slot table with at most this session in it, on the first slot. -/
def aloneSlots (id : String) (slots : SlotManager) : SlotManager :=
  if (slots.slotFor id).isSome then SlotManager.assign {} firstSlot id else {}

/-- What a session sees of the device: itself, as if it were alone on it. -/
def State.alone (id : String) (state : State) : Usb × SlotManager × Option Session :=
  (state.usb, aloneSlots id state.gamepadSlots,
    (state.sessions id).map Session.alone)

section Alone

variable {slots slots' : SlotManager} {id : String}

theorem slotFor_isSome_iff (nonempty : id ≠ "") :
    (slots.slotFor id).isSome ↔ slots.Held id := by
  cases found : slots.slotFor id with
  | none => simpa using not_held_of_slotFor found
  | some slot => simpa using ⟨slot, holds_of_slotFor nonempty found⟩

theorem aloneSlots_of_held (nonempty : id ≠ "") (held : slots.Held id) :
    aloneSlots id slots = SlotManager.assign {} firstSlot id :=
  if_pos ((slotFor_isSome_iff nonempty).mpr held)

theorem aloneSlots_of_not_held (nonempty : id ≠ "") (notHeld : ¬ slots.Held id) :
    aloneSlots id slots = {} :=
  if_neg fun found => notHeld ((slotFor_isSome_iff nonempty).mp found)

theorem aloneSlots_congr (nonempty : id ≠ "")
    (same : slots'.Held id ↔ slots.Held id) :
    aloneSlots id slots' = aloneSlots id slots := by
  by_cases held : slots.Held id
  · rw [aloneSlots_of_held nonempty held,
      aloneSlots_of_held nonempty (same.mpr held)]
  · rw [aloneSlots_of_not_held nonempty held,
      aloneSlots_of_not_held nonempty (mt same.mp held)]

theorem firstHeldBy_of_firstSlot {holder : String}
    (holds : slots.occupied firstSlot = holder) :
    slots.firstHeldBy holder = some firstSlot := by
  obtain ⟨others, first⟩ :
      ∃ others, List.finRange maxGamepads = firstSlot :: others := ⟨_, rfl⟩
  rw [SlotManager.firstHeldBy, first]
  exact List.find?_cons_of_pos (by simpa using holds)

theorem occupied_assign_firstSlot :
    (SlotManager.assign {} firstSlot id).occupied firstSlot = id := by
  simp [SlotManager.assign]

theorem slotFor_empty (nonempty : id ≠ "") : SlotManager.slotFor {} id = none :=
  SlotManager.firstHeldBy_eq_none_iff.mpr fun _ => nonempty.symm

theorem slotFor_aloneSlots (nonempty : id ≠ "") :
    (aloneSlots id slots).slotFor id =
      (slots.slotFor id).map fun _ => firstSlot := by
  cases found : slots.slotFor id with
  | none =>
      rw [aloneSlots_of_not_held nonempty (not_held_of_slotFor found)]
      exact slotFor_empty nonempty
  | some slot =>
      rw [aloneSlots_of_held nonempty ⟨slot, holds_of_slotFor nonempty found⟩]
      exact firstHeldBy_of_firstSlot occupied_assign_firstSlot

/-- A session that is not refused claims alone as it does in the crowd. -/
theorem claim_aloneSlots (nonempty : id ≠ "")
    (available : slots.Held id ∨ ∃ slot, slots.Free slot) :
    (aloneSlots id slots).claim id =
      ((slots.claim id).1.map fun _ => firstSlot,
        aloneSlots id (slots.claim id).2) := by
  obtain ⟨slot, claims, holds⟩ :=
    SlotManager.claim_returns_slot nonempty available
  rw [claims, aloneSlots_of_held nonempty ⟨slot, holds⟩, Option.map_some]
  by_cases held : slots.Held id
  · rw [aloneSlots_of_held nonempty held]
    have found : (SlotManager.assign {} firstSlot id).firstHeldBy id =
        some firstSlot := firstHeldBy_of_firstSlot occupied_assign_firstSlot
    simp [SlotManager.claim, nonempty, found]
  · rw [aloneSlots_of_not_held nonempty held]
    have missing := slotFor_empty nonempty
    have free : SlotManager.firstHeldBy {} "" = some firstSlot :=
      firstHeldBy_of_firstSlot rfl
    rw [SlotManager.slotFor] at missing
    simp [SlotManager.claim, nonempty, missing, free]

theorem release_aloneSlots (nonempty : id ≠ "") :
    (aloneSlots id slots).release id = aloneSlots id (slots.release id) := by
  have released : ¬ (slots.release id).Held id := by simp
  rw [aloneSlots_of_not_held nonempty released, SlotManager.release,
    if_neg nonempty]
  congr 1
  funext slot
  by_cases held : slots.Held id
  · rw [aloneSlots_of_held nonempty held]
    by_cases first : slot = firstSlot
    · simp [SlotManager.assign, first]
    · simp [SlotManager.assign, Function.update_of_ne first]
  · rw [aloneSlots_of_not_held nonempty held]
    exact ite_self _

/-- Which slot a report is for does not matter to whether it is written. -/
theorem written_slot (delivered : Bool) (usb : Usb) (report : Report)
    (slot other : Fin maxGamepads) :
    (written delivered (rpcGamepadReport usb slot report)).map Prod.snd =
      (written delivered (rpcGamepadReport usb other report)).map Prod.snd := by
  have reaches : ∀ (target : Fin maxGamepads) (bytes : HidReport),
      (written delivered (rpcGamepadReport usb target report)).map Prod.snd =
          some bytes ↔
        delivered = true ∧ usb.ready = true ∧ usb.gamepad = true ∧
          report.bytes = bytes := by
    intro target bytes
    simp only [Option.map_eq_some_iff, Prod.exists, exists_eq_right,
      written_eq_some_iff]
    constructor
    · rintro ⟨-, isDelivered, ready, gamepad, -, same⟩
      exact ⟨isDelivered, ready, gamepad, same⟩
    · rintro ⟨isDelivered, ready, gamepad, same⟩
      exact ⟨target, isDelivered, ready, gamepad, rfl, same⟩
  ext bytes
  rw [reaches slot, reaches other]

variable {rpc : Rpc} {usb : Usb} {session session' : Session} {event : Event}
variable {write : Option Write}

/-- A session that is not refused a slot does in the crowd what it does alone. -/
theorem react_alone (nonempty : id ≠ "")
    (available : event = .claim →
      slots.Held id ∨ ∃ slot, slots.Free slot)
    (taken : session.react rpc usb slots id event =
      some (session', slots', write)) :
    ∃ aloneWrite, session.alone.react rpc usb (aloneSlots id slots) id event =
        some (session'.alone, aloneSlots id slots', aloneWrite) ∧
      aloneWrite.map Prod.snd = write.map Prod.snd := by
  cases event with
  | receive isString data =>
      simp only [Session.react] at taken ⊢
      cases queued : HidRpc.onDataChannelMessage isString data with
      | error panic => simp [queued] at taken
      | ok queueIndex =>
          simp only [queued] at taken ⊢
          split_ifs at taken with here room
          · cases taken
            exact ⟨none, (if_pos here).trans (if_pos room), rfl⟩
          · cases taken
            exact ⟨none, if_neg here, rfl⟩
  | handle =>
      simp only [Session.react] at taken ⊢
      split at taken
      · rename_i data rest idle queue
        have idleAlone : session.alone.worker = .idle := by
          simp [Session.alone, idle, Worker.alone]
        have queueAlone : session.alone.hidQueue = data :: rest := queue
        split at taken
        · cases taken
        · rename_i report handles
          cases taken
          refine ⟨none, ?_, rfl⟩
          simp only [idleAlone, queueAlone, handles, slotFor_aloneSlots nonempty]
          cases slots.slotFor id <;> rfl
        · rename_i handled notGamepad handles
          cases taken
          refine ⟨none, ?_, rfl⟩
          simp only [idleAlone, queueAlone, handles]
          simp [Session.alone, idle, Worker.alone]
      · cases taken
  | claim =>
      simp only [Session.react] at taken ⊢
      split at taken
      · rename_i report claiming
        cases taken
        refine ⟨none, ?_, rfl⟩
        have claimingAlone : session.alone.worker = .claiming report := by
          simp [Session.alone, claiming, Worker.alone]
        simp only [claimingAlone, claim_aloneSlots nonempty (available rfl)]
        cases (slots.claim id).1 <;> rfl
      · cases taken
  | write delivered =>
      simp only [Session.react] at taken ⊢
      split at taken
      · rename_i slot report writing
        cases taken
        have writingAlone : session.alone.worker = .writing firstSlot report := by
          simp [Session.alone, writing, Worker.alone]
        rw [writingAlone]
        exact ⟨_, rfl, written_slot delivered usb report firstSlot slot⟩
      · cases taken
  | receiveRpc data =>
      simp only [Session.react] at taken ⊢
      split_ifs at taken with opened
      cases taken
      exact ⟨none, by simp [Session.alone, opened], rfl⟩
  | handleRpc index delivered =>
      simp only [Session.react] at taken ⊢
      cases queued : session.rpcCalls[index]? with
      | none => simp [queued] at taken
      | some data =>
          simp only [queued] at taken
          cases taken
          have queuedAlone : session.alone.rpcCalls[index]? = some data := queued
          rw [queuedAlone]
          exact ⟨_, rfl, rfl⟩
  | release =>
      simp only [Session.react] at taken ⊢
      split_ifs at taken with connected
      cases taken
      refine ⟨none, ?_, rfl⟩
      rw [release_aloneSlots nonempty]
      simp [Session.alone, connected]
  | closeQueues =>
      simp only [Session.react] at taken ⊢
      split_ifs at taken with released
      cases taken
      exact ⟨none, by simp [Session.alone, released], rfl⟩

end Alone

theorem gained_of_reports_eq {id : String}
    (unchanged : next.reports = state.reports) : gained id state next = [] := by
  unfold gained
  rw [unchanged]
  split
  · exact List.drop_length
  · rfl

/-- A session gains the reports it writes itself. -/
theorem gained_record (sound : state.Sound) {id : String} {session : Session}
    (found : state.sessions id = some session) {slots' : SlotManager}
    {session' : Session} {write : Option Write}
    (own : ∀ slot bytes, write = some (slot, bytes) →
      state.gamepadSlots.Holds slot id) :
    gained id state (({ state.setSession id session' with
      gamepadSlots := slots' }).record write) = (write.map Prod.snd).toList := by
  have nonempty := sound.nonempty found
  cases write with
  | none => exact gained_of_reports_eq rfl
  | some target =>
      obtain ⟨slot, bytes⟩ := target
      have assigned := (slotFor_eq_some_iff sound.exclusive nonempty).mpr
        (own slot bytes rfl)
      simp [gained, assigned, State.record, State.setSession]

/-- The other sessions neither change what a session sees nor write to its
slot. -/
theorem unconcerned_step {id : String} (nonempty : id ≠ "") (sound : state.Sound)
    (own : OnOwnSlot rpc state label) (taken : step rpc state label = some next)
    (foreign : concerns id label = false) :
    next.alone id = state.alone id ∧ gained id state next = [] := by
  cases label with
  | newSession other isAdmin =>
      obtain ⟨-, -, rfl⟩ := step_newSession taken
      have different : id ≠ other := Ne.symm (by simpa [concerns] using foreign)
      constructor
      · simp [State.alone, State.setSession, Function.update_of_ne different]
      · exact gained_of_reports_eq rfl
  | setUsb usb => cases foreign
  | session other event =>
      have different : id ≠ other := Ne.symm (by simpa [concerns] using foreign)
      obtain ⟨session, session', slots', write, found, reacts, rfl⟩ :=
        step_session taken
      have frame := react_holds_of_ne different reacts
      have held : slots'.Held id ↔ state.gamepadSlots.Held id :=
        exists_congr frame
      constructor
      · simp [State.alone, State.setSession, Function.update_of_ne different,
          aloneSlots_congr nonempty held]
      · cases assigned : state.gamepadSlots.slotFor id with
        | none => simp [gained, assigned]
        | some slot =>
            have holds := holds_of_slotFor nonempty assigned
            have unchanged : (({ state.setSession other session' with
                gamepadSlots := slots' }).record write).reports slot =
                  state.reports slot := by
              by_contra changes
              obtain ⟨bytes, rfl⟩ := record_reports_ne_iff.mp changes
              have others := holds_of_onOwnSlot sound own found reacts
              exact different ((sound.exclusive _ _ _ _ holds others).mp rfl)
            simp [gained, assigned, unchanged]

/-- What a step of its own means to a session is decided by what it sees. -/
theorem concerned_step {id : String} (nonempty : id ≠ "") {state' next' : State}
    (sound : state.Sound) (sound' : state'.Sound)
    (own : OnOwnSlot rpc state label) (own' : OnOwnSlot rpc state' label)
    (available : NotRefused id state label)
    (available' : NotRefused id state' label)
    (taken : step rpc state label = some next)
    (taken' : step rpc state' label = some next')
    (concerned : concerns id label = true)
    (same : state.alone id = state'.alone id) :
    next.alone id = next'.alone id ∧
      gained id state next = gained id state' next' := by
  obtain ⟨sameUsb, sameSlots, sameSession⟩ :
      state.usb = state'.usb ∧
        aloneSlots id state.gamepadSlots = aloneSlots id state'.gamepadSlots ∧
        (state.sessions id).map Session.alone =
          (state'.sessions id).map Session.alone := by
    simpa [State.alone] using same
  cases label with
  | newSession other isAdmin =>
      obtain rfl : other = id := by simpa [concerns] using concerned
      obtain ⟨-, -, rfl⟩ := step_newSession taken
      obtain ⟨-, -, rfl⟩ := step_newSession taken'
      constructor
      · simp [State.alone, State.setSession, sameUsb, sameSlots]
      · exact (gained_of_reports_eq rfl).trans (gained_of_reports_eq rfl).symm
  | setUsb usb =>
      obtain rfl := Option.some.inj taken
      obtain rfl := Option.some.inj taken'
      constructor
      · simp [State.alone, sameSlots, sameSession]
      · exact (gained_of_reports_eq rfl).trans (gained_of_reports_eq rfl).symm
  | session other event =>
      obtain rfl : other = id := by simpa [concerns] using concerned
      obtain ⟨session, after, slots, write, found, reacts, rfl⟩ :=
        step_session taken
      obtain ⟨session', after', slots', write', found', reacts', rfl⟩ :=
        step_session taken'
      rw [gained_record sound found fun slot bytes isWrite =>
          holds_of_onOwnSlot sound own found (isWrite ▸ reacts),
        gained_record sound' found' fun slot bytes isWrite =>
          holds_of_onOwnSlot sound' own' found' (isWrite ▸ reacts')]
      obtain ⟨aloneWrite, alone, writes⟩ := react_alone nonempty
        (fun isClaim => by subst isClaim; exact available rfl) reacts
      obtain ⟨aloneWrite', alone', writes'⟩ := react_alone nonempty
        (fun isClaim => by subst isClaim; exact available' rfl) reacts'
      have sameAlone : session.alone = session'.alone := by
        simpa [found, found'] using sameSession
      rw [sameAlone, sameUsb, sameSlots, alone'] at alone
      obtain ⟨afterEq, slotsEq, rfl⟩ :
          after'.alone = after.alone ∧
            aloneSlots other slots' = aloneSlots other slots ∧
            aloneWrite' = aloneWrite := by
        simpa using alone
      constructor
      · simp [State.alone, State.setSession, sameUsb, afterEq, slotsEq]
      · rw [← writes, ← writes']

theorem unwinding (rpc : Rpc) {id : String} (nonempty : id ≠ "") :
    Unwinding (step rpc) State.Sound
      (fun state label => OnOwnSlot rpc state label ∧ NotRefused id state label)
      (concerns id) (State.alone id) (gained id) where
  keeps := fun sound _ taken => sound.step taken
  unconcerned := fun sound meets taken foreign =>
    unconcerned_step nonempty sound meets.1 taken foreign
  concerned := fun sound sound' meets meets' taken taken' concerned same =>
    concerned_step nonempty sound sound' meets.1 meets'.1 meets.2 meets'.2 taken
      taken' concerned same

/-- Every step of a run changes only the reports of its session's slot exactly
when every report that reaches the host finds its sender's slot.  Two such runs
that differ in the steps of other sessions leave a session that is not refused
a slot with the same reports. -/
theorem isolated_iff_onOwnSlot (rpc : Rpc) :
    (∀ labels, AllSteps (step rpc) (Isolated rpc) {} labels ↔
      AllSteps (step rpc) (OnOwnSlot rpc) {} labels) ∧
    ∀ id labels labels' last last', exec (step rpc) {} labels = some last →
      exec (step rpc) {} labels' = some last' → (last.sessions id).isSome →
        AllSteps (step rpc)
          (fun state label =>
            OnOwnSlot rpc state label ∧ NotRefused id state label) {} labels →
        AllSteps (step rpc)
          (fun state label =>
            OnOwnSlot rpc state label ∧ NotRefused id state label) {} labels' →
        labels.filter (concerns id) = labels'.filter (concerns id) →
          outputs (step rpc) (gained id) {} labels =
            outputs (step rpc) (gained id) {} labels' := by
  constructor
  · intro labels
    exact @allSteps_congr State Label (step rpc) State.Sound (Isolated rpc)
      (OnOwnSlot rpc) (fun sound _ taken => sound.step taken)
      (fun sound taken => isolated_iff sound taken) {} State.Sound.initial labels
  · intro id labels labels' last last' reaches reaches' known meets meets' same
    have everywhere : AllStates (step rpc) State.Sound {} labels :=
      @allStates_of_invariant State Label (step rpc) State.Sound
        (fun sound taken => sound.step taken) {} State.Sound.initial labels
    have sound := everywhere.last reaches
    obtain ⟨session, found⟩ := Option.isSome_iff_exists.mp known
    exact (unwinding rpc (sound.nonempty found)).outputs_eq State.Sound.initial
      State.Sound.initial rfl meets meets' reaches reaches' same

/-- Button one, sticks at rest. -/
def buttonOne : Report := ⟨128, 128, 128, 128, 0, 0, 1⟩

/-- A request to report button one on the first slot. -/
def firstSlotRequest : List UInt8 :=
  ("\x7b\"jsonrpc\":\"2.0\",\"method\":\"gamepadReport\",\"params\":" ++
    "\x7b\"padIndex\":0,\"lx\":128,\"ly\":128,\"rx\":128,\"ry\":128," ++
    "\"lt\":0,\"rt\":0,\"buttons\":1\x7d,\"id\":1\x7d").toUTF8.toList

/-- JSON-RPC as it reads this request. -/
def firstSlotRpc : Rpc where
  json :=
    { unmarshal := fun _ => .ok
        { method := "gamepadReport", params := "padIndex 0, button 1", id := "1" }
      call := fun _ => .ok "null" }
  gamepadArguments := fun _ => .ok (0, buttonOne)

/-- A session joins and its first binary report reaches the host. -/
def firstReport (id : String) (isAdmin : Bool) : List Label :=
  [.newSession id isAdmin, .session id (.receive false
      ⟨[0x0A, 3, 128, 128, 128, 128, 0, 0, 0, 0, 0, 1], []⟩),
    .session id .handle, .session id .claim, .session id (.write true)]

/-- The guest joins first and takes the first slot; the host's reports on the
second are those it would make alone. -/
theorem isolated_iff_onOwnSlot_two_players :
    outputs (step firstSlotRpc) (gained "host") {}
        (.setUsb ⟨true, true⟩ :: firstReport "host" true) =
      outputs (step firstSlotRpc) (gained "host") {}
        (.setUsb ⟨true, true⟩ ::
          (firstReport "guest" false ++ firstReport "host" true)) := by
  refine (isolated_iff_onOwnSlot firstSlotRpc).2 "host" _ _ _ _ rfl rfl rfl
    ?_ ?_ rfl
  · iterate 4 refine allSteps_cons_of_step rfl ⟨trivial, trivial⟩ ?_
    refine allSteps_cons_of_step rfl ⟨trivial, fun _ => .inr ⟨firstSlot, rfl⟩⟩ ?_
    refine allSteps_cons_of_step rfl
      ⟨fun _ _ => ⟨firstSlot, by decide, rfl⟩, trivial⟩ ?_
    trivial
  · iterate 4 refine allSteps_cons_of_step rfl ⟨trivial, trivial⟩ ?_
    refine allSteps_cons_of_step rfl ⟨trivial, nofun⟩ ?_
    refine allSteps_cons_of_step rfl
      ⟨fun _ _ => ⟨firstSlot, by decide, rfl⟩, trivial⟩ ?_
    iterate 3 refine allSteps_cons_of_step rfl ⟨trivial, trivial⟩ ?_
    refine allSteps_cons_of_step rfl
      ⟨trivial, fun _ => .inr ⟨⟨1, by decide⟩, rfl⟩⟩ ?_
    refine allSteps_cons_of_step rfl
      ⟨fun _ _ => ⟨⟨1, by decide⟩, by decide, rfl⟩, trivial⟩ ?_
    trivial

/-- The guest has no slot, and presses a button on that of the host. -/
def guestNamesSlot : List Label :=
  .setUsb ⟨true, true⟩ :: firstReport "host" true ++
    [.newSession "guest" false, .session "guest" (.receiveRpc firstSlotRequest),
      .session "guest" (.handleRpc 0 true)]

/-- A guest session writes to the slot of another session. -/
theorem guest_writes_to_slot_of_host :
    ¬ ∀ labels, AllSteps (step firstSlotRpc) (Isolated firstSlotRpc) {} labels := by
  intro isolated
  have run := isolated guestNamesSlot
  have joined := (((((run _ rfl).2 _ rfl).2 _ rfl).2 _ rfl).2 _ rfl).2 _ rfl
  have here := (((joined.2 _ rfl).2 _ rfl).2 _ rfl).1
  obtain ⟨id, event, same, assigned⟩ := here _ firstSlot rfl (by decide)
  obtain ⟨rfl, rfl⟩ := Label.session.inj same
  cases assigned

end Isolation

end Gamepad

end JetKvm
