import JetKvm.BrowserHidReports
import JetKvm.LabelledRuns

/-!
# Delivery of pointer and gamepad reports over two channels

The browser sends a report that changes the buttons on the reliable channel
and any other one on the unreliable ordered channel.  Reports on the latter
may be lost but do not overtake one another, and nothing orders the two
channels.  The device queues what arrives and handles it in that order.

`sent` and `handled` record the history of a run; the code does not read them.
-/

namespace JetKvm

namespace ReportDelivery

open LabelledRuns
open HidRpc

/-- A report on its way: whether it changed the buttons, the channel it is on
and how many reports were sent before it. -/
structure Packet where
  report : Report
  buttonsChanged : Bool
  onReliable : Bool
  number : Nat
  deriving DecidableEq, Repr

def Packet.data (packet : Packet) : Slice UInt8 :=
  ⟨packet.report.marshal, []⟩

/-- `lastButtons` stands for `lastAbsButtons` and `lastGamepadButtons`.  The
channels and the queue are oldest first, the histories latest first.  A pad is
applied to the slot of its own index, as while multi-player mode is off. -/
structure State where
  lastButtons : Control → UInt32 := fun _ => 0
  reliable : List Packet := []
  unreliable : List Packet := []
  hidQueue : List Packet := []
  applied : Control → UInt32 := fun _ => 0
  sent : List Packet := []
  handled : List Packet := []

/-- `report` is a call of `reportAbsMouseEvent` or `reportGamepadEvent`, with
the unreliable channel open or not. -/
inductive Label where
  | report (report : Report) (unreliableReady : Bool)
  | deliverReliable
  | deliverUnreliable
  | lose (position : Nat)
  | handle
  deriving DecidableEq, Repr

/-- `sendMessage` with the reliable channel open and the handshake done. -/
def sendMessage (state : State) (packet : Packet) : State :=
  if packet.onReliable then
    { state with
      reliable := state.reliable ++ [packet]
      sent := packet :: state.sent }
  else
    { state with
      unreliable := state.unreliable ++ [packet]
      sent := packet :: state.sent }

/-- The packet of a report: changed buttons use the reliable channel, and so
does any report while the unreliable one is not open. -/
def newPacket (state : State) (report : Report) (unreliableReady : Bool) :
    Packet :=
  let buttonsChanged :=
    decide (report.buttons ≠ state.lastButtons report.control)
  let useUnreliableChannel := !buttonsChanged
  { report := report
    buttonsChanged := buttonsChanged
    onReliable := !(useUnreliableChannel && unreliableReady)
    number := state.sent.length }

def reportEvent (state : State) (report : Report) (unreliableReady : Bool) :
    State :=
  sendMessage
    { state with
      lastButtons :=
        Function.update state.lastButtons report.control report.buttons }
    (newPacket state report unreliableReady)

/-- `getOnHidMessageHandler`; sending to a full queue blocks. -/
def enqueue (state : State) (packet : Packet) : Option State :=
  match onDataChannelMessage false packet.data with
  | .ok (some 2) =>
      if state.hidQueue.length < hidQueueSize then
        some { state with hidQueue := state.hidQueue ++ [packet] }
      else none
  | .ok _ => some state
  | .error _ => none

/-- The buttons last applied, after the device handled a message. -/
def apply (applied : Control → UInt32) : Handled → Control → UInt32
  | .call (.absMouseReport _ _ buttons) =>
      Function.update applied .absMouse buttons.toUInt32
  | .call (.gamepadReport report) =>
      if inside : report.padIndex.toNat < Gamepad.maxGamepads then
        Function.update applied (.pad ⟨report.padIndex.toNat, inside⟩)
          report.buttons
      else applied
  | _ => applied

def step (state : State) : Label → Option State
  | .report report unreliableReady =>
      some (reportEvent state report unreliableReady)
  | .deliverReliable =>
      match state.reliable with
      | [] => none
      | packet :: rest => enqueue { state with reliable := rest } packet
  | .deliverUnreliable =>
      match state.unreliable with
      | [] => none
      | packet :: rest => enqueue { state with unreliable := rest } packet
  | .lose position =>
      some { state with unreliable := state.unreliable.eraseIdx position }
  | .handle =>
      match state.hidQueue with
      | [] => none
      | packet :: rest =>
          match onHidMessage false packet.data with
          | .error _ => none
          | .ok handled =>
              some { state with
                hidQueue := rest
                applied := apply state.applied handled
                handled := packet :: state.handled }

/-- Everything in flight has been lost or delivered and handled. -/
def State.Quiescent (state : State) : Prop :=
  state.reliable = [] ∧ state.unreliable = [] ∧ state.hidQueue = []

/-- The buttons last applied are the ones last sent, for the mouse and every
pad. -/
def ButtonsAgree (state : State) : Prop :=
  ∀ control, state.applied control = state.lastButtons control

/-- The report of a control that was handled last. -/
def lastHandled (state : State) (control : Control) : Option Packet :=
  state.handled.find? fun packet => packet.report.control = control

/-- The last report that changed the buttons of a control. -/
def lastChange (state : State) (control : Control) : Option Packet :=
  state.sent.find? fun packet =>
    packet.report.control = control ∧ packet.buttonsChanged = true

/-- The report handled last is a movement from the unreliable channel that was
sent before the last button change, with other buttons. -/
def EndsWithStaleMovement (state : State) (control : Control) : Prop :=
  ∃ movement change, lastHandled state control = some movement ∧
    lastChange state control = some change ∧
    movement.onReliable = false ∧ movement.number < change.number ∧
    movement.report.buttons ≠ change.report.buttons

/-! ## What a step does -/

@[simp]
theorem apply_call (applied : Control → UInt32) (report : Report) :
    apply applied (.call report.call) =
      Function.update applied report.control report.buttons := by
  cases report with
  | pointer x y buttons => rfl
  | gamepad padIndex lx ly rx ry lt rt buttons =>
      have same : (UInt8.ofNat padIndex).toNat = padIndex := by
        have small : padIndex.val < 4 := padIndex.isLt
        rw [UInt8.toNat_ofNat']
        omega
      have inside : (UInt8.ofNat padIndex).toNat < Gamepad.maxGamepads := by
        rw [same]
        exact padIndex.isLt
      simp only [apply, Report.call, Report.control, Report.buttons, dif_pos inside]
      congr 2
      exact Fin.ext same

theorem enqueue_eq_some {state next : State} {packet : Packet}
    (taken : enqueue state packet = some next) :
    next = { state with hidQueue := state.hidQueue ++ [packet] } := by
  simp only [enqueue, Packet.data, onDataChannelMessage_marshal] at taken
  split_ifs at taken
  exact (Option.some.inj taken).symm

variable {state next : State} {label : Label}

/-- A step sends a report, moves the oldest packet of a channel to the queue,
loses packets of the unreliable channel or applies the oldest queued report. -/
theorem step_cases (taken : step state label = some next) :
    (∃ report unreliableReady, next = reportEvent state report unreliableReady) ∨
    (∃ packet rest, state.reliable = packet :: rest ∧
      next = { state with
        reliable := rest, hidQueue := state.hidQueue ++ [packet] }) ∨
    (∃ packet rest, state.unreliable = packet :: rest ∧
      next = { state with
        unreliable := rest, hidQueue := state.hidQueue ++ [packet] }) ∨
    (∃ kept, kept.Sublist state.unreliable ∧
      next = { state with unreliable := kept }) ∨
    (∃ packet rest, state.hidQueue = packet :: rest ∧
      next = { state with
        hidQueue := rest
        applied := Function.update state.applied packet.report.control
          packet.report.buttons
        handled := packet :: state.handled }) := by
  cases label with
  | report report unreliableReady =>
      exact .inl ⟨report, unreliableReady, (Option.some.inj taken).symm⟩
  | deliverReliable =>
      cases inFlight : state.reliable with
      | nil => simp [step, inFlight] at taken
      | cons packet rest =>
          simp only [step, inFlight] at taken
          exact .inr (.inl ⟨packet, rest, rfl, enqueue_eq_some taken⟩)
  | deliverUnreliable =>
      cases inFlight : state.unreliable with
      | nil => simp [step, inFlight] at taken
      | cons packet rest =>
          simp only [step, inFlight] at taken
          exact .inr (.inr (.inl ⟨packet, rest, rfl, enqueue_eq_some taken⟩))
  | lose position =>
      exact .inr (.inr (.inr (.inl ⟨_, List.eraseIdx_sublist _ position,
        (Option.some.inj taken).symm⟩)))
  | handle =>
      cases queued : state.hidQueue with
      | nil => simp [step, queued] at taken
      | cons packet rest =>
          simp only [step, queued, Packet.data, onHidMessage_marshal,
            apply_call] at taken
          exact .inr (.inr (.inr (.inr ⟨packet, rest, rfl,
            (Option.some.inj taken).symm⟩)))

section SendMessage

variable (packet : Packet)

@[simp]
theorem sent_sendMessage : (sendMessage state packet).sent = packet :: state.sent := by
  unfold sendMessage
  split <;> rfl

@[simp]
theorem lastButtons_sendMessage :
    (sendMessage state packet).lastButtons = state.lastButtons := by
  unfold sendMessage
  split <;> rfl

@[simp]
theorem hidQueue_sendMessage :
    (sendMessage state packet).hidQueue = state.hidQueue := by
  unfold sendMessage
  split <;> rfl

@[simp]
theorem handled_sendMessage :
    (sendMessage state packet).handled = state.handled := by
  unfold sendMessage
  split <;> rfl

@[simp]
theorem applied_sendMessage :
    (sendMessage state packet).applied = state.applied := by
  unfold sendMessage
  split <;> rfl

end SendMessage

/-! ## What was sent -/

/-- The sent reports are numbered, button changes went on the reliable channel,
and every report since the last change carries its buttons. -/
structure State.Sending (state : State) : Prop where
  numbered : ∀ packet ∈ state.sent, packet.number < state.sent.length
  ordered : state.sent.Pairwise fun later earlier =>
    earlier.number < later.number
  changeOnReliable : ∀ packet ∈ state.sent,
    packet.buttonsChanged = true → packet.onReliable = true
  current : ∀ control, state.lastButtons control =
    (lastChange state control).elim 0 (·.report.buttons)
  sinceChange : ∀ packet ∈ state.sent,
    (∀ change, lastChange state packet.report.control = some change →
      change.number ≤ packet.number) →
    packet.report.buttons = state.lastButtons packet.report.control

theorem State.Sending.initial : State.Sending {} where
  numbered := nofun
  ordered := List.Pairwise.nil
  changeOnReliable := nofun
  current := fun _ => rfl
  sinceChange := nofun

theorem lastChange_reportEvent (report : Report) (unreliableReady : Bool)
    (control : Control) :
    lastChange (reportEvent state report unreliableReady) control =
      if report.control = control ∧
          report.buttons ≠ state.lastButtons report.control then
        some (newPacket state report unreliableReady)
      else lastChange state control := by
  unfold lastChange reportEvent
  rw [sent_sendMessage]
  by_cases changed : report.control = control ∧
      report.buttons ≠ state.lastButtons report.control
  · rw [if_pos changed]
    apply List.find?_cons_of_pos
    simpa [newPacket] using changed
  · rw [if_neg changed]
    apply List.find?_cons_of_neg
    simpa [newPacket] using changed

theorem State.Sending.reportEvent (sending : state.Sending) (report : Report)
    (unreliableReady : Bool) :
    (ReportDelivery.reportEvent state report unreliableReady).Sending := by
  have sent_eq : (ReportDelivery.reportEvent state report unreliableReady).sent =
      newPacket state report unreliableReady :: state.sent :=
    sent_sendMessage _
  have lastButtons_eq : ∀ control,
      (ReportDelivery.reportEvent state report unreliableReady).lastButtons
        control = if control = report.control then report.buttons
          else state.lastButtons control := by
    intro control
    simp [ReportDelivery.reportEvent, Function.update_apply]
  refine ⟨?_, ?_, ?_, ?_, ?_⟩
  · rw [sent_eq, List.forall_mem_cons, List.length_cons]
    refine ⟨Nat.lt_succ_self _, fun packet member => ?_⟩
    exact Nat.lt_succ_of_lt (sending.numbered packet member)
  · rw [sent_eq]
    exact List.pairwise_cons.mpr ⟨sending.numbered, sending.ordered⟩
  · rw [sent_eq, List.forall_mem_cons]
    refine ⟨fun changed => ?_, sending.changeOnReliable⟩
    have changed : decide (report.buttons ≠ state.lastButtons report.control) =
        true := changed
    simp [newPacket, changed]
  · intro control
    rw [lastButtons_eq, lastChange_reportEvent]
    by_cases own : control = report.control
    · subst own
      by_cases same : report.buttons = state.lastButtons report.control
      · simp [same, sending.current]
      · simp [same, newPacket]
    · simp [own, Ne.symm own, sending.current]
  · rw [sent_eq, List.forall_mem_cons]
    refine ⟨fun _ => ?_, fun packet member since => ?_⟩
    · simp [newPacket, lastButtons_eq]
    · rw [lastChange_reportEvent] at since
      rw [lastButtons_eq]
      by_cases own : packet.report.control = report.control
      · rw [own] at since ⊢
        by_cases same : report.buttons = state.lastButtons report.control
        · simp only [same, ne_eq, not_true_eq_false, and_false, if_false,
            if_true] at since ⊢
          rw [← own] at since ⊢
          exact sending.sinceChange packet member since
        · -- the new report is the last change, and later than every other
          have later := since _ (if_pos ⟨rfl, same⟩)
          have earlier := sending.numbered packet member
          exact absurd earlier (Nat.not_lt.mpr later)
      · rw [if_neg own]
        rw [if_neg fun changed => own changed.1.symm] at since
        exact sending.sinceChange packet member since

theorem State.Sending.step (sending : state.Sending)
    (taken : ReportDelivery.step state label = some next) : next.Sending := by
  rcases step_cases taken with
    ⟨report, unreliableReady, rfl⟩ | ⟨_, _, -, rfl⟩ | ⟨_, _, -, rfl⟩ |
      ⟨_, -, rfl⟩ | ⟨_, _, -, rfl⟩
  · exact sending.reportEvent report unreliableReady
  all_goals
    exact ⟨sending.numbered, sending.ordered, sending.changeOnReliable,
      sending.current, sending.sinceChange⟩

/-! ## What arrived -/

/-- The reports of the reliable channel arrive in the order they were sent in,
and nothing arrives that was not sent. -/
structure State.Transit (state : State) : Prop where
  conserved : (state.handled.reverse ++ state.hidQueue).filter (·.onReliable) ++
    state.reliable = state.sent.reverse.filter (·.onReliable)
  onUnreliable : ∀ packet ∈ state.unreliable,
    packet.onReliable = false ∧ packet ∈ state.sent
  received : ∀ packet ∈ state.handled.reverse ++ state.hidQueue,
    packet ∈ state.sent

theorem State.Transit.initial : State.Transit {} where
  conserved := rfl
  onUnreliable := nofun
  received := nofun

theorem State.Transit.mem_of_reliable (transit : state.Transit)
    {packet : Packet} (member : packet ∈ state.reliable) :
    packet.onReliable = true ∧ packet ∈ state.sent := by
  have carried : packet ∈ state.sent.reverse.filter (·.onReliable) := by
    rw [← transit.conserved]
    exact List.mem_append_right _ member
  rw [List.mem_filter, List.mem_reverse] at carried
  exact ⟨carried.2, carried.1⟩

theorem State.Transit.sendMessage (transit : state.Transit) (packet : Packet) :
    (ReportDelivery.sendMessage state packet).Transit := by
  obtain ⟨conserved, onUnreliable, received⟩ := transit
  refine ⟨?_, ?_, ?_⟩
  · rw [handled_sendMessage, hidQueue_sendMessage, sent_sendMessage,
      List.reverse_cons, List.filter_append _ [packet], ← conserved]
    cases channel : packet.onReliable with
    | true => simp [ReportDelivery.sendMessage, channel]
    | false => simp [ReportDelivery.sendMessage, channel]
  · rw [sent_sendMessage]
    have earlier : ∀ other ∈ state.unreliable,
        other.onReliable = false ∧ other ∈ packet :: state.sent :=
      fun other member =>
        (onUnreliable other member).imp_right (List.mem_cons_of_mem _)
    cases channel : packet.onReliable with
    | true => simpa [ReportDelivery.sendMessage, channel] using earlier
    | false =>
        intro other member
        simp only [ReportDelivery.sendMessage, channel, Bool.false_eq_true,
          if_false, List.mem_append, List.mem_singleton] at member
        rcases member with old | rfl
        · exact earlier other old
        · exact ⟨channel, List.mem_cons_self⟩
  · rw [handled_sendMessage, hidQueue_sendMessage, sent_sendMessage]
    exact fun other member => List.mem_cons_of_mem _ (received other member)

theorem State.Transit.step (transit : state.Transit)
    (taken : ReportDelivery.step state label = some next) : next.Transit := by
  obtain ⟨conserved, onUnreliable, received⟩ := transit
  rcases step_cases taken with
    ⟨report, unreliableReady, rfl⟩ | ⟨packet, rest, inFlight, rfl⟩ |
      ⟨packet, rest, inFlight, rfl⟩ | ⟨kept, sublist, rfl⟩ |
      ⟨packet, rest, queued, rfl⟩
  · have same : State.Transit { state with
        lastButtons :=
          Function.update state.lastButtons report.control report.buttons } :=
      ⟨conserved, onUnreliable, received⟩
    exact same.sendMessage _
  · have inReliable : packet ∈ state.reliable := inFlight ▸ List.mem_cons_self
    have sent := State.Transit.mem_of_reliable
      ⟨conserved, onUnreliable, received⟩ inReliable
    refine ⟨?_, onUnreliable, ?_⟩
    · rw [← conserved, inFlight]
      simp [sent.1]
    · rw [← List.append_assoc, List.forall_mem_append]
      exact ⟨received, by simpa using sent.2⟩
  · have sent := onUnreliable packet (inFlight ▸ List.mem_cons_self)
    refine ⟨?_, fun other member => onUnreliable other ?_, ?_⟩
    · rw [← conserved]
      simp [sent.1]
    · rw [inFlight]
      exact List.mem_cons_of_mem _ member
    · rw [← List.append_assoc, List.forall_mem_append]
      exact ⟨received, by simpa using sent.2⟩
  · exact ⟨conserved,
      fun other member => onUnreliable other (sublist.subset member), received⟩
  · have moved : (packet :: state.handled).reverse ++ rest =
        state.handled.reverse ++ state.hidQueue := by
      rw [queued, List.reverse_cons, List.append_assoc]
      rfl
    refine ⟨?_, onUnreliable, ?_⟩
    · rw [moved]
      exact conserved
    · rw [moved]
      exact received

/-- What is applied are the buttons of the report handled last. -/
def State.Applied (state : State) : Prop :=
  ∀ control, state.applied control =
    (lastHandled state control).elim 0 (·.report.buttons)

theorem State.Applied.step (applied : state.Applied)
    (taken : ReportDelivery.step state label = some next) : next.Applied := by
  rcases step_cases taken with
    ⟨report, unreliableReady, rfl⟩ | ⟨_, _, -, rfl⟩ | ⟨_, _, -, rfl⟩ |
      ⟨_, -, rfl⟩ | ⟨packet, _, -, rfl⟩
  · intro control
    simpa [reportEvent, lastHandled] using applied control
  · exact applied
  · exact applied
  · exact applied
  · intro control
    by_cases own : packet.report.control = control
    · simp [lastHandled, own]
    · simpa [lastHandled, own, Function.update_of_ne (Ne.symm own)] using
        applied control

structure State.Invariant (state : State) : Prop where
  sending : state.Sending
  transit : state.Transit
  applied : state.Applied

theorem State.Invariant.initial : State.Invariant {} where
  sending := State.Sending.initial
  transit := State.Transit.initial
  applied := fun _ => rfl

theorem State.Invariant.step (invariant : state.Invariant)
    (taken : ReportDelivery.step state label = some next) : next.Invariant where
  sending := invariant.sending.step taken
  transit := invariant.transit.step taken
  applied := invariant.applied.step taken

/-! ## After the last delivery -/

theorem find?_filter_of_find? {α : Type} {wanted kept : α → Bool}
    {items : List α} {item : α} (found : items.find? wanted = some item)
    (isKept : kept item = true) :
    (items.filter kept).find? wanted = some item := by
  induction items with
  | nil => cases found
  | cons head rest ih =>
      by_cases isWanted : wanted head = true
      · rw [List.find?_cons_of_pos isWanted] at found
        obtain rfl := Option.some.inj found
        rw [List.filter_cons_of_pos isKept, List.find?_cons_of_pos isWanted]
      · rw [List.find?_cons_of_neg isWanted] at found
        by_cases headKept : kept head = true
        · rw [List.filter_cons_of_pos headKept, List.find?_cons_of_neg isWanted]
          exact ih found
        · rw [List.filter_cons_of_neg headKept]
          exact ih found

/-- In a history, latest first, a search finds the latest match. -/
theorem number_le_of_find? {wanted : Packet → Bool} {history : List Packet}
    (ordered : history.Pairwise fun later earlier =>
      earlier.number < later.number)
    {latest packet : Packet} (found : history.find? wanted = some latest)
    (member : packet ∈ history) (isWanted : wanted packet = true) :
    packet.number ≤ latest.number := by
  induction history with
  | nil => cases found
  | cons head rest ih =>
      obtain ⟨above, orderedRest⟩ := List.pairwise_cons.mp ordered
      by_cases headWanted : wanted head = true
      · rw [List.find?_cons_of_pos headWanted] at found
        obtain rfl := Option.some.inj found
        rcases List.mem_cons.mp member with rfl | inRest
        · exact Nat.le_refl _
        · exact Nat.le_of_lt (above packet inRest)
      · rw [List.find?_cons_of_neg headWanted] at found
        rcases List.mem_cons.mp member with rfl | inRest
        · exact absurd isWanted headWanted
        · exact ih orderedRest found inRest

theorem mem_of_lastChange {control : Control} {change : Packet}
    (last : lastChange state control = some change) :
    change ∈ state.sent ∧ change.report.control = control ∧
      change.buttonsChanged = true := by
  refine ⟨List.mem_of_find?_eq_some last, ?_⟩
  simpa using List.find?_some last

theorem State.Invariant.handledReliable (invariant : state.Invariant)
    (quiescent : state.Quiescent) :
    state.handled.filter (·.onReliable) = state.sent.filter (·.onReliable) := by
  have conserved := invariant.transit.conserved
  rw [quiescent.1, quiescent.2.2, List.append_nil, List.append_nil,
    List.filter_reverse, List.filter_reverse] at conserved
  exact List.reverse_injective conserved

/-- A report of the reliable channel that is handled last was not sent before
the last button change. -/
theorem State.Invariant.change_le_of_reliable (invariant : state.Invariant)
    (quiescent : state.Quiescent) {control : Control} {last change : Packet}
    (handledLast : lastHandled state control = some last)
    (changedLast : lastChange state control = some change)
    (onReliable : last.onReliable = true) : change.number ≤ last.number := by
  have foundLast : (state.handled.filter (·.onReliable)).find?
      (fun packet => packet.report.control = control) = some last :=
    find?_filter_of_find? handledLast onReliable
  rw [invariant.handledReliable quiescent] at foundLast
  obtain ⟨member, own, changed⟩ := mem_of_lastChange changedLast
  have changeReliable := invariant.sending.changeOnReliable change member changed
  exact number_le_of_find? (invariant.sending.ordered.filter _) foundLast
    (List.mem_filter.mpr ⟨member, changeReliable⟩) (by simpa using own)

theorem State.Invariant.applied_eq_iff (invariant : state.Invariant)
    (quiescent : state.Quiescent) (control : Control) :
    state.applied control = state.lastButtons control ↔
      ¬ EndsWithStaleMovement state control := by
  rw [invariant.applied control]
  cases handledLast : lastHandled state control with
  | none =>
      apply iff_of_true
      · rw [invariant.sending.current control]
        cases changedLast : lastChange state control with
        | none => rfl
        | some change =>
            -- a button change cannot get lost
            obtain ⟨member, own, changed⟩ := mem_of_lastChange changedLast
            have changeReliable :=
              invariant.sending.changeOnReliable change member changed
            have arrived : change ∈ state.handled.filter (·.onReliable) := by
              rw [invariant.handledReliable quiescent]
              exact List.mem_filter.mpr ⟨member, changeReliable⟩
            have notOwn := List.find?_eq_none.mp handledLast change
              (List.mem_filter.mp arrived).1
            exact absurd own (by simpa using notOwn)
      · rintro ⟨movement, change, handled, -⟩
        rw [handledLast] at handled
        cases handled
  | some last =>
      have own : last.report.control = control := by
        simpa using List.find?_some handledLast
      have sent : last ∈ state.sent := by
        apply invariant.transit.received
        apply List.mem_append_left
        exact List.mem_reverse.mpr (List.mem_of_find?_eq_some handledLast)
      change last.report.buttons = state.lastButtons control ↔ _
      by_cases stale : ∃ change, lastChange state control = some change ∧
          last.number < change.number
      · obtain ⟨change, changedLast, before⟩ := stale
        rw [invariant.sending.current control, changedLast]
        constructor
        · rintro same ⟨movement, other, handled, changed, -, -, different⟩
          obtain rfl := Option.some.inj (handledLast.symm.trans handled)
          obtain rfl := Option.some.inj (changedLast.symm.trans changed)
          exact different same
        · intro notStale
          by_contra different
          refine notStale ⟨last, change, handledLast, changedLast, ?_, before,
            different⟩
          rw [← Bool.not_eq_true]
          intro onReliable
          have after := invariant.change_le_of_reliable quiescent handledLast
            changedLast onReliable
          exact absurd before (Nat.not_lt.mpr after)
      · apply iff_of_true
        · rw [← own]
          apply invariant.sending.sinceChange last sent
          intro change changedLast
          rw [own] at changedLast
          exact Nat.le_of_not_lt fun before => stale ⟨change, changedLast, before⟩
        · rintro ⟨movement, change, handled, changedLast, -, before, -⟩
          obtain rfl := Option.some.inj (handledLast.symm.trans handled)
          exact stale ⟨change, changedLast, before⟩

/-- Once nothing is in flight, the buttons last applied are the ones last sent
unless a stale movement was handled last. -/
theorem buttonsAgree_iff_no_stale_movement {labels : List Label} {last : State}
    (reaches : exec step {} labels = some last) (quiescent : last.Quiescent) :
    ButtonsAgree last ↔ ∀ control, ¬ EndsWithStaleMovement last control := by
  have invariant : last.Invariant :=
    (allStates_of_invariant (fun invariant taken => invariant.step taken)
      State.Invariant.initial labels).last reaches
  exact forall_congr' (invariant.applied_eq_iff quiescent)

/-- A button press that arrives and is handled. -/
def pressDelivered : List Label :=
  [.report (.pointer 100 100 1) true, .deliverReliable, .handle]

theorem buttonsAgree_iff_no_stale_movement_press :
    ∃ last, exec step {} pressDelivered = some last ∧ last.Quiescent ∧
      (ButtonsAgree last ↔
        ∀ control, ¬ EndsWithStaleMovement last control) :=
  ⟨_, rfl, ⟨rfl, rfl, rfl⟩,
    @buttonsAgree_iff_no_stale_movement pressDelivered _ rfl ⟨rfl, rfl, rfl⟩⟩

/-- A movement is sent, then a button change, and the change arrives first. -/
def overtakenMovement (movement change : Report) : List Label :=
  [.report movement true, .report change true, .deliverReliable, .handle,
    .deliverUnreliable, .handle]

/-- The late movement takes the pressed button back, of the mouse or of a
pad. -/
theorem buttons_differ_after_overtaken_movement :
    (¬ ∀ last, exec step {}
        (overtakenMovement (.pointer 100 100 0) (.pointer 100 100 1)) =
          some last → last.Quiescent → ButtonsAgree last) ∧
      ¬ ∀ last, exec step {}
        (overtakenMovement (.gamepad ⟨0, by decide⟩ 128 128 128 128 0 0 0)
          (.gamepad ⟨0, by decide⟩ 128 128 128 128 0 0 1)) =
          some last → last.Quiescent → ButtonsAgree last := by
  constructor
  · intro agree
    exact absurd (agree _ rfl ⟨rfl, rfl, rfl⟩ .absMouse) (by decide)
  · intro agree
    exact absurd (agree _ rfl ⟨rfl, rfl, rfl⟩ (.pad ⟨0, by decide⟩)) (by decide)

end ReportDelivery

end JetKvm
