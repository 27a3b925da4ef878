import JetKvm.KeypressKeepAlive
import Mathlib.Data.List.Chain

/-!
# The timing of keepalives

The keepalives of one session, in the order in which they arrive, with resets of
its times in between.  Beside the session a run keeps the accepted keepalives
since the last reset and the auto-release timers of the keys.
-/

namespace JetKvm

namespace KeepAlive

namespace Timing

open LabelledRuns

/-- An accepted keepalive and the extension that it gives the timers -/
structure Tick where
  time : Nat
  extension : Nat
  deriving DecidableEq, Repr

/-- The time to which the keepalive sets the timers -/
def Tick.deadline (tick : Tick) : Nat :=
  tick.time + tick.extension

/-- `accepted` lists the accepted keepalives since the last reset, the latest
first; `lastAccepted` outlives a reset, and `pressedSince` tells whether a key
was pressed after it. -/
structure State where
  now : Nat := 0
  times : Times := {}
  kbdAutoReleaseTimers : UInt8 → Option Nat := fun _ => none
  accepted : List Tick := []
  lastAccepted : Option Nat := none
  pressedSince : Bool := false

inductive Label where
  | keypressKeepAlive (arrival : Nat)
  | resetKeepAliveTime
  | scheduleAutoRelease (time : Nat) (key : UInt8)
  | deleteTimer (key : UInt8)
  deriving DecidableEq, Repr

def State.keepAlive (state : State) (arrival : Nat) : State :=
  match handleHidRPCKeypressKeepAlive arrival state.times with
  | (times, some extension) =>
      { now := arrival
        times := times
        kbdAutoReleaseTimers := fun key =>
          (state.kbdAutoReleaseTimers key).map fun _ => arrival + extension
        accepted := ⟨arrival, extension⟩ :: state.accepted
        lastAccepted := some arrival
        pressedSince := false }
  | (times, none) => { state with now := arrival, times := times }

/-- Time does not run backwards. -/
def step (state : State) : Label → Option State
  | .keypressKeepAlive arrival =>
      if state.now ≤ arrival then some (state.keepAlive arrival) else none
  | .resetKeepAliveTime => some { state with times := {}, accepted := [] }
  | .scheduleAutoRelease time key =>
      if state.now ≤ time then
        some
          { state with
            now := time
            kbdAutoReleaseTimers :=
              Function.update state.kbdAutoReleaseTimers key
                (some (time + autoReleaseDuration))
            pressedSince := true }
      else none
  | .deleteTimer key =>
      some
        { state with
          kbdAutoReleaseTimers :=
            Function.update state.kbdAutoReleaseTimers key none }

/-- A keepalive after the previous one that was accepted -/
def Tick.Follows (tick previous : Tick) : Prop :=
  tick.deadline ≤ previous.time + 150 * millisecond ∧
    previous.deadline ≤ tick.deadline

/-- What is expected of the timing -/
structure OnTime (state : State) : Prop where
  bounded : ∀ tick ∈ state.accepted,
    50 * millisecond ≤ tick.extension ∧ tick.extension ≤ 100 * millisecond
  chained : state.accepted.IsChain Tick.Follows
  decides : ∀ arrival, state.now ≤ arrival →
    ((handleHidRPCKeypressKeepAlive arrival state.times).2.isSome ↔
      ∀ last ∈ state.accepted.head?, arrival ≤ last.time + 100 * millisecond)
  released : state.pressedSince = false → ∀ last ∈ state.lastAccepted,
    ∀ key deadline, state.kbdAutoReleaseTimers key = some deadline →
      deadline ≤ last + 100 * millisecond

/-- The keepalive is the first since the reset, or comes at most 100 ms after
the last one that was accepted. -/
def State.Due (state : State) (arrival : Nat) : Prop :=
  ∀ last ∈ state.accepted.head?, arrival ≤ last.time + 100 * millisecond

/-- The keepalive that arrived becomes the last one, and every timer is set to
its deadline. -/
def Accepts (state next : State) (arrival : Nat) : Prop :=
  ∃ tick : Tick, tick.time = arrival ∧ next.accepted = tick :: state.accepted ∧
    next.lastAccepted = some arrival ∧ next.pressedSince = false ∧
    ∀ key, next.kbdAutoReleaseTimers key =
      (state.kbdAutoReleaseTimers key).map fun _ => tick.deadline

/-- A keepalive that is due is accepted, and any other changes nothing; a reset
forgets the keepalives. -/
def Records (state : State) (label : Label) : Prop :=
  ∀ next, step state label = some next →
    (∀ arrival, label = .keypressKeepAlive arrival →
      (state.Due arrival → Accepts state next arrival) ∧
        (¬ state.Due arrival → next = { state with now := arrival })) ∧
    (label = .resetKeepAliveTime → next.accepted = [])

/-- The times of the session are those of the last keepalive that was accepted
since the reset. -/
structure Invariant (state : State) : Prop extends OnTime state where
  timed : state.times = ⟨state.accepted.head?.map Tick.time,
    state.accepted.head?.map Tick.time⟩
  past : ∀ last ∈ state.accepted.head?, last.time ≤ state.now

/-! ### One keepalive -/

/-- The extension makes up for the lateness. -/
theorem extension_eq {last arrival extension : Nat} {times after : Times}
    (kept : times = ⟨some last, some last⟩)
    (accepted : handleHidRPCKeypressKeepAlive arrival times =
      (after, some extension)) :
    arrival - last ≤ 50 * millisecond ∧ extension = 100 * millisecond ∨
      50 * millisecond < arrival - last ∧ arrival - last ≤ 100 * millisecond ∧
        extension = 150 * millisecond - (arrival - last) := by
  subst kept
  unfold handleHidRPCKeypressKeepAlive at accepted
  simp only [Times.IsStale, Option.some.injEq, exists_eq_left'] at accepted
  have base : baseExtension = 100 * millisecond := rfl
  have rate : expectedRate = 50 * millisecond := rfl
  have latest : maxLateness = 50 * millisecond := rfl
  split_ifs at accepted with stale late small
  · cases accepted
  · obtain ⟨-, same⟩ := Prod.mk.inj accepted
    have extension := Option.some.inj same
    refine .inr ⟨?_, ?_, ?_⟩
    · omega
    · omega
    · omega
  · cases accepted
  · obtain ⟨-, same⟩ := Prod.mk.inj accepted
    have extension := Option.some.inj same
    refine .inl ⟨?_, ?_⟩
    · omega
    · omega

theorem extension_of_first {arrival extension : Nat} {after : Times}
    (accepted : handleHidRPCKeypressKeepAlive arrival ⟨none, none⟩ =
      (after, some extension)) : extension = 100 * millisecond := by
  have same := Option.some.inj (Prod.mk.inj accepted).2
  simp only [baseExtension, expectedRate, maxLateness] at same
  omega

theorem decides_of_timed {accepted : List Tick} {times : Times}
    (timed : times = ⟨accepted.head?.map Tick.time,
      accepted.head?.map Tick.time⟩) (arrival : Nat) :
    (handleHidRPCKeypressKeepAlive arrival times).2.isSome ↔
      ∀ last ∈ accepted.head?, arrival ≤ last.time + 100 * millisecond := by
  have base : baseExtension = 100 * millisecond := rfl
  rw [timed, accepted_iff, base]
  cases accepted.head? with
  | none => simp
  | some last => simp

/-! ### The steps -/

section Steps

variable {state next : State}

theorem invariant_initial : Invariant {} where
  bounded := nofun
  chained := .nil
  decides := fun arrival _ => @decides_of_timed [] {} rfl arrival
  released := nofun
  timed := rfl
  past := nofun

theorem Invariant.keepAlive (invariant : Invariant state) {arrival : Nat}
    (later : state.now ≤ arrival) : Invariant (state.keepAlive arrival) := by
  rw [State.keepAlive]
  cases handled : handleHidRPCKeypressKeepAlive arrival state.times with
  | mk times result =>
      cases result with
      | none =>
          obtain rfl := of_rejected handled
          exact {
            bounded := invariant.bounded
            chained := invariant.chained
            decides := fun arrival _ => decides_of_timed invariant.timed arrival
            released := invariant.released
            timed := invariant.timed
            past := fun last isLast =>
              (invariant.past last isLast).trans later }
      | some extension =>
          obtain ⟨rfl, -⟩ := of_accepted handled
          have positive : 0 < millisecond := by decide
          -- the extension, and how it follows the keepalive before
          have spec : (50 * millisecond ≤ extension ∧
                extension ≤ 100 * millisecond) ∧
              ∀ last ∈ state.accepted.head?,
                Tick.Follows ⟨arrival, extension⟩ last := by
            cases before : state.accepted.head? with
            | none =>
                have timed := invariant.timed
                rw [before] at timed
                rw [timed] at handled
                have whole := extension_of_first handled
                exact ⟨by omega, nofun⟩
            | some last =>
                have timed := invariant.timed
                rw [before] at timed
                have inPast := invariant.past last before
                have bounded :=
                  invariant.bounded last (List.mem_of_mem_head? before)
                have cases := extension_eq timed handled
                refine ⟨by omega, ?_⟩
                intro other isLast
                cases isLast
                simp only [Tick.Follows, Tick.deadline]
                omega
          have decides := @decides_of_timed
            (⟨arrival, extension⟩ :: state.accepted) _ rfl
          exact {
            bounded := List.forall_mem_cons.mpr ⟨spec.1, invariant.bounded⟩
            chained := List.isChain_cons.mpr ⟨spec.2, invariant.chained⟩
            decides := fun arrival _ => decides arrival
            released := by
              intro _ last isLast key deadline isTimer
              cases isLast
              obtain ⟨-, -, rfl⟩ := Option.map_eq_some_iff.mp isTimer
              omega
            timed := rfl
            past := fun last isLast => by
              cases isLast
              exact Nat.le_refl _ }

theorem Invariant.step {label : Label} (invariant : Invariant state)
    (taken : step state label = some next) : Invariant next := by
  cases label with
  | keypressKeepAlive arrival =>
      simp only [Timing.step, Option.ite_none_right_eq_some] at taken
      obtain ⟨later, same⟩ := taken
      obtain rfl := Option.some.inj same
      exact invariant.keepAlive later
  | resetKeepAliveTime =>
      obtain rfl := Option.some.inj taken
      exact {
        bounded := nofun
        chained := .nil
        decides := fun arrival _ => @decides_of_timed [] {} rfl arrival
        released := invariant.released
        timed := rfl
        past := nofun }
  | scheduleAutoRelease time key =>
      simp only [Timing.step, Option.ite_none_right_eq_some] at taken
      obtain ⟨later, same⟩ := taken
      obtain rfl := Option.some.inj same
      exact {
        bounded := invariant.bounded
        chained := invariant.chained
        decides := fun arrival _ => decides_of_timed invariant.timed arrival
        released := nofun
        timed := invariant.timed
        past := fun last isLast => (invariant.past last isLast).trans later }
  | deleteTimer key =>
      obtain rfl := Option.some.inj taken
      exact {
        bounded := invariant.bounded
        chained := invariant.chained
        decides := invariant.decides
        released := by
          intro noPress last isLast other deadline isTimer
          by_cases same : other = key
          · subst same
            simp only [Function.update_self] at isTimer
            cases isTimer
          · simp only [Function.update_of_ne same] at isTimer
            exact invariant.released noPress last isLast other deadline isTimer
        timed := invariant.timed
        past := invariant.past }

theorem Invariant.records {label : Label} (invariant : Invariant state) :
    Records state label := by
  rintro next taken
  refine ⟨?_, ?_⟩
  · rintro arrival rfl
    simp only [Timing.step, Option.ite_none_right_eq_some] at taken
    obtain ⟨later, same⟩ := taken
    obtain rfl := Option.some.inj same
    have decides := invariant.decides arrival later
    unfold State.keepAlive
    cases handled : handleHidRPCKeypressKeepAlive arrival state.times with
    | mk times result =>
        rw [handled] at decides
        cases result with
        | none =>
            obtain rfl := of_rejected handled
            exact ⟨fun due => absurd (decides.mpr due) (by simp), fun _ => rfl⟩
        | some extension =>
            exact ⟨fun _ => ⟨⟨arrival, extension⟩, rfl, rfl, rfl, rfl,
              fun _ => rfl⟩, fun early => absurd (decides.mp rfl) early⟩
  · rintro rfl
    obtain rfl := Option.some.inj taken
    rfl

end Steps

/-- However the keepalives arrive, those that are due are accepted, no others,
and they extend the timers as they should. -/
theorem allStates_onTime (labels : List Label) :
    AllStates step OnTime {} labels ∧ AllSteps step Records {} labels := by
  have everywhere : AllStates step Invariant {} labels :=
    allStates_of_invariant Invariant.step invariant_initial labels
  refine ⟨everywhere.mono fun _ invariant => invariant.toOnTime, ?_⟩
  exact allSteps_of_invariant Invariant.step
    (fun invariant _ => invariant.records) invariant_initial labels

end Timing

end KeepAlive

end JetKvm
