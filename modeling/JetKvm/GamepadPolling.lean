import JetKvm.GamepadIsolation
import JetKvm.LabelledRuns

/-!
# Polling the gamepads of the browser

Translation of `ui/src/hooks/useGamepad.ts` and of `reportGamepadEvent`.  A
frame whose buttons have not changed goes over the channel that may lose it.
A pad that is there sends its frame again and again, but a slot that its pad
has left sends the neutral frame once.
-/

namespace JetKvm

namespace GamepadPolling

open Gamepad (maxGamepads)
open Gamepad.Isolation (Report)
open LabelledRuns

def neutralFrame : Report :=
  ⟨128, 128, 128, 128, 0, 0, 0⟩

/-! ## Slots -/

/-- `lastButtons` is the entry of `lastGamepadButtons`.  The host holds the last
frame that reached it; `missed` records whether the last one that was sent did
not. -/
structure Slot where
  pad : Option Report := none
  lastFrame : Option Report := none
  lastSentTime : Nat := 0
  lastButtons : UInt32 := 0
  host : Report := neutralFrame
  missed : Bool := false
  deriving DecidableEq, Repr

section Slots

-- `rpcHidReady`, the time in milliseconds, and whether the channel that may
-- lose a frame does so
variable (rpcHidReady : Bool) (now : Nat) (lost : Bool)

def Slot.sendPadFrame (slot : Slot) (frame : Report) : Slot :=
  let buttonsChanged := frame.buttons ≠ slot.lastButtons
  let arrives := rpcHidReady ∧ (buttonsChanged ∨ lost = false)
  { slot with
    lastFrame := some frame
    lastSentTime := now
    lastButtons := frame.buttons
    host := if arrives then frame else slot.host
    missed := ¬ arrives }

/-- One pass of the loop of `tick` -/
def Slot.tick (slot : Slot) : Slot :=
  if rpcHidReady = false then slot
  else
    match slot.pad with
    | none =>
        match slot.lastFrame with
        | none => slot
        | some last =>
            if last ≠ neutralFrame then
              slot.sendPadFrame rpcHidReady now lost neutralFrame
            else slot
    | some frame =>
        if slot.lastFrame = some frame ∧ now - slot.lastSentTime < 100 then slot
        else slot.sendPadFrame rpcHidReady now lost frame

end Slots

/-! ## Runs -/

structure State where
  slots : Fin maxGamepads → Slot := fun _ => {}
  enabled : Bool := false
  rpcHidReady : Bool := false
  now : Nat := 0

/-- `setPad` is a pad that is connected or moved; the event of one that is
unplugged is handled while the hook is enabled. -/
inductive Label where
  | enable (enabled : Bool)
  | setReady (ready : Bool)
  | pass (milliseconds : Nat)
  | setPad (idx : Fin maxGamepads) (frame : Report)
  | unplug (idx : Fin maxGamepads) (lost : Bool)
  | tick (lost : Fin maxGamepads → Bool)

def step (state : State) : Label → Option State
  | .enable enabled => some { state with enabled }
  | .setReady ready => some { state with rpcHidReady := ready }
  | .pass milliseconds => some { state with now := state.now + milliseconds }
  | .setPad idx frame =>
      some { state with
        slots := Function.update state.slots idx
          { state.slots idx with pad := some frame } }
  | .unplug idx lost =>
      let vacant := { state.slots idx with pad := none }
      some { state with
        slots := Function.update state.slots idx
          (if state.enabled then
            vacant.sendPadFrame state.rpcHidReady state.now lost neutralFrame
          else vacant) }
  | .tick lost =>
      if state.enabled then
        some { state with
          slots := fun idx =>
            (state.slots idx).tick state.rpcHidReady state.now (lost idx) }
      else none

/-- What the host should have in a slot -/
def Slot.goal (slot : Slot) : Report :=
  slot.pad.getD neutralFrame

/-- What the host has when all is well for a tenth of a second and a tick -/
def State.recovered (state : State) (idx : Fin maxGamepads) : Report :=
  ((state.slots idx).tick true (state.now + 100) false).host

/-- The pad is gone and its neutral frame has been sent, but the host still has
another one. -/
def Slot.Stranded (slot : Slot) : Prop :=
  slot.pad = none ∧ slot.lastFrame = some neutralFrame ∧
    slot.host ≠ neutralFrame

instance : DecidablePred Slot.Stranded := fun _ =>
  inferInstanceAs (Decidable (_ ∧ _))

/-! ### The invariant -/

/-- The host has the last frame, unless that was missed. -/
structure Slot.Consistent (now : Nat) (slot : Slot) : Prop where
  host_eq : slot.missed = false → slot.host = slot.lastFrame.getD neutralFrame
  unsent : slot.lastFrame = none → slot.missed = false
  past : slot.lastSentTime ≤ now

variable {slot : Slot} {now : Nat}

theorem Slot.consistent_sendPadFrame (slot : Slot) (now : Nat)
    (ready lost : Bool) (frame : Report) :
    (slot.sendPadFrame ready now lost frame).Consistent now where
  host_eq reached := by
    simp only [Slot.sendPadFrame, decide_eq_false_iff_not, not_not] at reached ⊢
    rw [if_pos reached]
    rfl
  unsent sent := by cases sent
  past := Nat.le_refl now

theorem Slot.Consistent.tick (consistent : slot.Consistent now)
    (ready lost : Bool) : (slot.tick ready now lost).Consistent now := by
  unfold Slot.tick
  split
  · exact consistent
  · split
    · split
      · exact consistent
      · split
        · apply Slot.consistent_sendPadFrame
        · exact consistent
    · split
      · exact consistent
      · apply Slot.consistent_sendPadFrame

theorem Slot.Consistent.later (consistent : slot.Consistent now) (more : Nat) :
    slot.Consistent (now + more) where
  host_eq := consistent.host_eq
  unsent := consistent.unsent
  past := Nat.le_add_right_of_le consistent.past

theorem Slot.Consistent.setPad (consistent : slot.Consistent now)
    (pad : Option Report) : { slot with pad := pad }.Consistent now where
  host_eq := consistent.host_eq
  unsent := consistent.unsent
  past := consistent.past

def State.Consistent (state : State) : Prop :=
  ∀ idx, (state.slots idx).Consistent state.now

theorem State.Consistent.initial : State.Consistent {} := by
  intro idx
  exact ⟨fun _ => rfl, fun _ => rfl, Nat.le_refl 0⟩

theorem State.Consistent.step {state next : State} {label : Label}
    (consistent : state.Consistent)
    (taken : step state label = some next) : next.Consistent := by
  cases label with
  | enable enabled =>
      cases taken
      exact consistent
  | setReady ready =>
      cases taken
      exact consistent
  | pass milliseconds =>
      cases taken
      intro idx
      exact (consistent idx).later milliseconds
  | setPad idx frame =>
      cases taken
      intro other
      by_cases same : other = idx
      · subst same
        simpa using (consistent other).setPad (some frame)
      · simpa [same] using consistent other
  | unplug idx lost =>
      cases taken
      intro other
      by_cases same : other = idx
      · subst same
        cases state.enabled with
        | false => simpa using (consistent other).setPad none
        | true => simpa using Slot.consistent_sendPadFrame ..
      · simpa [same] using consistent other
  | tick lost =>
      simp only [GamepadPolling.step] at taken
      split at taken
      · cases taken
        intro idx
        exact (consistent idx).tick ..
      · cases taken

/-! ### Recovery -/

/-- A pad that is there gets its frame to the host. -/
theorem Slot.Consistent.host_tick_of_pad (consistent : slot.Consistent now)
    {frame : Report} (there : slot.pad = some frame) :
    (slot.tick true (now + 100) false).host = frame := by
  have past := consistent.past
  have due : ¬ (slot.lastFrame = some frame ∧ now + 100 - slot.lastSentTime < 100) := by
    rintro ⟨-, recent⟩
    omega
  simp [Slot.tick, there, due, Slot.sendPadFrame]

theorem Slot.Consistent.host_tick_of_vacant (consistent : slot.Consistent now)
    (vacant : slot.pad = none) :
    (slot.tick true (now + 100) false).host = neutralFrame ↔ ¬ slot.Stranded := by
  cases sent : slot.lastFrame with
  | none =>
      have host := consistent.host_eq (consistent.unsent sent)
      rw [sent] at host
      simp [Slot.tick, vacant, sent, host, Slot.Stranded]
  | some last =>
      by_cases neutral : last = neutralFrame
      · subst neutral
        simp [Slot.tick, vacant, sent, Slot.Stranded]
      · simp [Slot.tick, vacant, sent, neutral, Slot.sendPadFrame, Slot.Stranded]

theorem Slot.Consistent.missed_of_stranded (consistent : slot.Consistent now)
    (stranded : slot.Stranded) : slot.missed = true := by
  by_contra reached
  apply stranded.2.2
  rw [consistent.host_eq (by simpa using reached), stranded.2.1]
  rfl

/-- Whatever frames were lost, the host gets to where the pads are, in every
slot but those whose pad is gone and whose one neutral frame did not arrive. -/
theorem recovered_iff_not_stranded (labels : List Label) :
    AllStates step
      (fun state => ∀ idx,
        (state.recovered idx = (state.slots idx).goal ↔
          ¬ (state.slots idx).Stranded) ∧
        ((state.slots idx).Stranded → (state.slots idx).missed = true))
      {} labels := by
  apply (allStates_of_invariant State.Consistent.step
    State.Consistent.initial labels).mono
  intro state consistent idx
  refine ⟨?_, (consistent idx).missed_of_stranded⟩
  cases pad : (state.slots idx).pad with
  | none =>
      rw [Slot.goal, pad]
      exact (consistent idx).host_tick_of_vacant pad
  | some frame =>
      rw [Slot.goal, pad]
      have there := (consistent idx).host_tick_of_pad pad
      have moved : ¬ (state.slots idx).Stranded := by
        rintro ⟨vacant, -⟩
        rw [pad] at vacant
        cases vacant
      exact iff_of_true there moved

/-- A stick that is held when the pad is unplugged -/
example :
    (exec step {} [.enable true, .setReady true, .setPad ⟨0, by decide⟩
        ⟨255, 128, 128, 128, 0, 0, 0⟩, .tick fun _ => false,
        .unplug ⟨0, by decide⟩ true]).map
      (fun state => decide (state.slots ⟨0, by decide⟩).Stranded) = some true := by
  decide

end GamepadPolling

end JetKvm
