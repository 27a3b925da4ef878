import JetKvm.LabelledRuns
import JetKvm.UsbKeyboardKeysDown

/-!
# Auto-release timers of the keyboard

`KeypressReport` changes the keys in one critical section, under
`keyboardMutex`, and starts or cancels the auto-release timer of the key in a
second one, under `kbdAutoReleaseLock`.  `performAutoRelease`, run by the
timer, deletes the timer, reads the keys, and releases the key in three
separate sections.  A step of the model is one section, so any number of
callers interleave between the sections.

The invariant is that a key that is down is guarded: it has a timer, or some
operation in progress will start one or release the key.
-/

namespace JetKvm

namespace UsbGadget

open LabelledRuns

/-- A timer in the map.  An expired timer has started its goroutine and stays
in the map until a section deletes or replaces it. -/
inductive Timer where
  | armed
  | expired
  deriving DecidableEq, Repr

/-- A section that an operation in progress has still to run. -/
inductive Section where
  | scheduleAutoRelease (key : UInt8)
  | cancelAutoRelease (key : UInt8)
  | performAutoRelease (key : UInt8)
  | readKeysDown (key : UInt8)
  | releaseKey (key : UInt8)
  | clearKeyboard
  deriving DecidableEq, Repr

structure AutoRelease where
  keysDownState : KeysDownState := {}
  kbdAutoReleaseTimers : UInt8 → Option Timer := fun _ => none
  running : List Section := []

namespace AutoRelease

/-- One critical section, or the expiry of a timer.  `closing` says that
`CancelAllAutoReleaseTimers` is called by the handler of a closed session,
which clears the keyboard next, unless the gadget is not ready for reports. -/
inductive Label where
  | keypressReport (key : UInt8) (press : Bool) (write : HidWrite)
  | scheduleAutoRelease (key : UInt8)
  | cancelAutoRelease (key : UInt8)
  | cancelAllAutoReleaseTimers (closing : Bool)
  | clearKeyboard (ready : Bool) (write : HidWrite)
  | delayAutoReleaseWithDuration
  | expire (key : UInt8)
  | performAutoRelease (key : UInt8)
  | readKeysDown (key : UInt8)
  | releaseKey (key : UInt8) (write : HidWrite)
  deriving DecidableEq, Repr

/-- The second section of `KeypressReport`; modifiers have no timers. -/
def timerSection (key : UInt8) (press : Bool) (state : KeysDownState) :
    List Section :=
  let isRolledOver := state.keys.head? = some hidErrorRollOver
  if IsModifier key then []
  else if isRolledOver ∨ press = false then [.cancelAutoRelease key]
  else [.scheduleAutoRelease key]

def finish (state : AutoRelease) (current : Section) : AutoRelease :=
  { state with running := state.running.erase current }

/-- Run a section that an operation in progress has reached. -/
def take (state : AutoRelease) (current : Section) : Option AutoRelease :=
  if current ∈ state.running then some (state.finish current) else none

def setTimer (state : AutoRelease) (key : UInt8) (timer : Option Timer) :
    AutoRelease :=
  { state with
    kbdAutoReleaseTimers := fun other =>
      if other = key then timer else state.kbdAutoReleaseTimers other }

def continueWith (state : AutoRelease) (sections : List Section) :
    AutoRelease :=
  { state with running := state.running ++ sections }

def withKeys (state : AutoRelease) (keysDownState : KeysDownState) :
    AutoRelease :=
  { state with keysDownState := keysDownState }

def keypress (state : AutoRelease) (key : UInt8) (press : Bool)
    (write : HidWrite) : AutoRelease :=
  let reported := UsbGadget.keypressReport state.keysDownState key press write
  (state.withKeys reported.tracked).continueWith
    (timerSection key press reported.newState)

def cancelAll (state : AutoRelease) (closing : Bool) : AutoRelease :=
  let cancelled := { state with kbdAutoReleaseTimers := fun _ => none }
  if closing then cancelled.continueWith [.clearKeyboard] else cancelled

/-- `timer.Reset` on every timer in the map: it counts down again. -/
def delay (state : AutoRelease) : AutoRelease :=
  { state with
    kbdAutoReleaseTimers := fun key =>
      (state.kbdAutoReleaseTimers key).map fun _ => .armed }

def keyboardClearStateKeys : List UInt8 := List.replicate 6 0

def clear (state : AutoRelease) (ready : Bool) (write : HidWrite) :
    AutoRelease :=
  if ready then
    state.withKeys (UsbGadget.keyboardReport state.keysDownState 0
      keyboardClearStateKeys write).tracked
  else state

/-- The first section of `performAutoRelease`. -/
def perform (state : AutoRelease) (key : UInt8) : AutoRelease :=
  match state.kbdAutoReleaseTimers key with
  | none => state
  | some _ => (state.setTimer key none).continueWith [.readKeysDown key]

/-- `performAutoRelease` stops if the key is already released. -/
def readKeys (state : AutoRelease) (key : UInt8) : AutoRelease :=
  if key ∈ state.keysDownState.keys then
    state.continueWith [.releaseKey key]
  else state

def release (state : AutoRelease) (key : UInt8) (write : HidWrite) :
    AutoRelease :=
  state.withKeys
    (UsbGadget.keypressReport state.keysDownState key false write).tracked

def step (state : AutoRelease) : Label → Option AutoRelease
  | .keypressReport key press write => some (state.keypress key press write)
  | .scheduleAutoRelease key =>
      (state.take (.scheduleAutoRelease key)).map
        (·.setTimer key (some .armed))
  | .cancelAutoRelease key =>
      (state.take (.cancelAutoRelease key)).map (·.setTimer key none)
  | .cancelAllAutoReleaseTimers closing => some (state.cancelAll closing)
  | .clearKeyboard ready write =>
      (state.take .clearKeyboard).map (·.clear ready write)
  | .delayAutoReleaseWithDuration => some state.delay
  | .expire key =>
      if state.kbdAutoReleaseTimers key = some .armed then
        some ((state.setTimer key (some .expired)).continueWith
          [.performAutoRelease key])
      else none
  | .performAutoRelease key =>
      (state.take (.performAutoRelease key)).map (·.perform key)
  | .readKeysDown key =>
      (state.take (.readKeysDown key)).map (·.readKeys key)
  | .releaseKey key write =>
      (state.take (.releaseKey key)).map (·.release key write)

/-- A key other than a modifier is down; zero marks a free slot. -/
def HoldsDown (state : AutoRelease) (key : UInt8) : Prop :=
  ¬ IsModifier key ∧ key ≠ 0 ∧ key ∈ state.keysDownState.keys

instance (state : AutoRelease) (key : UInt8) :
    Decidable (state.HoldsDown key) :=
  inferInstanceAs (Decidable (_ ∧ _ ∧ _))

/-- When no operation is in progress every key that is down has an armed
timer. -/
def NoStuckKey (state : AutoRelease) : Prop :=
  state.running = [] → ∀ key, state.HoldsDown key →
    state.kbdAutoReleaseTimers key = some .armed

/-- The sections that start a timer for the key or lead to its release. -/
def guards (key : UInt8) : List Section :=
  [.scheduleAutoRelease key, .readKeysDown key, .releaseKey key,
    .clearKeyboard]

def InFlight (state : AutoRelease) (key : UInt8) : Prop :=
  ∃ current ∈ guards key, current ∈ state.running

def Guarded (state : AutoRelease) (key : UInt8) : Prop :=
  state.kbdAutoReleaseTimers key ≠ none ∨ state.InFlight key

/-- The step does not take the last guard away from a key that is down: a
timer is cancelled only for a key that is up or guarded by an operation in
progress, and the clear of a closing session is not skipped when it is the
only guard. -/
def KeepsGuards (state : AutoRelease) : Label → Prop
  | .cancelAutoRelease key => state.HoldsDown key → state.InFlight key
  | .cancelAllAutoReleaseTimers closing =>
      closing = true ∨ ∀ key, state.HoldsDown key → state.InFlight key
  | .clearKeyboard ready _ =>
      ready = true ∨ ∀ key, state.HoldsDown key →
        (state.finish .clearKeyboard).Guarded key
  | _ => True

theorem eq_of_take_map {state next : AutoRelease} {current : Section}
    {after : AutoRelease → AutoRelease}
    (taken : (state.take current).map after = some next) :
    next = after (state.finish current) := by
  unfold take at taken
  split_ifs at taken
  · exact (Option.some.inj taken).symm
  · cases taken

/-- A report never leaves a roll over in the state it returns, so every press
of a key that is not a modifier goes on to start a timer. -/
theorem timerSection_press {key : UInt8} (notModifier : ¬ IsModifier key)
    (tracked : KeysDownState) (write : HidWrite) :
    timerSection key true
        (UsbGadget.keypressReport tracked key true write).newState =
      [.scheduleAutoRelease key] := by
  rw [timerSection, if_neg notModifier, if_neg]
  simp [keypressReport_newState_head?_ne]

variable {state : AutoRelease} {key : UInt8}

theorem InFlight.finish {current : Section} (inFlight : state.InFlight key)
    (notGuard : current ∉ guards key) : (state.finish current).InFlight key := by
  obtain ⟨guard, isGuard, present⟩ := inFlight
  have distinct : guard ≠ current := by
    rintro rfl
    exact notGuard isGuard
  exact ⟨guard, isGuard, (List.mem_erase_of_ne distinct).mpr present⟩

theorem InFlight.continueWith (inFlight : state.InFlight key)
    (sections : List Section) : (state.continueWith sections).InFlight key := by
  obtain ⟨guard, isGuard, present⟩ := inFlight
  exact ⟨guard, isGuard, List.mem_append_left _ present⟩

theorem inFlight_of_continueWith {current : Section} (isGuard : current ∈ guards key) :
    (state.continueWith [current]).InFlight key :=
  ⟨current, isGuard, List.mem_append_right _ List.mem_cons_self⟩

theorem Guarded.finish {current : Section} (guarded : state.Guarded key)
    (notGuard : current ∉ guards key) : (state.finish current).Guarded key :=
  guarded.imp_right fun inFlight => inFlight.finish notGuard

theorem Guarded.continueWith (guarded : state.Guarded key)
    (sections : List Section) : (state.continueWith sections).Guarded key :=
  guarded.imp_right fun inFlight => inFlight.continueWith sections

theorem Guarded.setTimer_of_ne {other : UInt8} (guarded : state.Guarded key)
    (distinct : key ≠ other) (timer : Option Timer) :
    (state.setTimer other timer).Guarded key := by
  rcases guarded with present | inFlight
  · left
    simpa [setTimer, distinct] using present
  · exact Or.inr inFlight

theorem guarded_setTimer_some (timer : Timer) :
    (state.setTimer key (some timer)).Guarded key := by
  left
  simp [setTimer]

/-- What every reachable state satisfies as long as no step takes the last
guard away. -/
structure Invariant (state : AutoRelease) : Prop where
  stores : StoresKeys state.keysDownState.keys
  guarded : ∀ key, state.HoldsDown key → state.Guarded key
  performing : ∀ key, state.kbdAutoReleaseTimers key = some .expired →
    .performAutoRelease key ∈ state.running

theorem Invariant.initial : Invariant {} where
  stores := storesKeys_initial
  guarded := by
    rintro key ⟨-, nonzero, member⟩
    exact absurd (List.eq_of_mem_replicate member) nonzero
  performing := nofun

theorem Invariant.noStuckKey (invariant : state.Invariant) :
    state.NoStuckKey := by
  intro quiescent key down
  rcases invariant.guarded key down with present | ⟨guard, -, running⟩
  · cases timer : state.kbdAutoReleaseTimers key with
    | none => exact absurd timer present
    | some phase =>
        cases phase with
        | armed => rfl
        | expired =>
            have running := invariant.performing key timer
            rw [quiescent] at running
            exact absurd running List.not_mem_nil
  · rw [quiescent] at running
    exact absurd running List.not_mem_nil

/-- After a keypress a key is down only if it was down and is not the one
released, or it is the one pressed. -/
theorem holdsDown_keypress {other : UInt8} {press : Bool} {write : HidWrite}
    (stores : StoresKeys state.keysDownState.keys)
    (down : (state.withKeys (UsbGadget.keypressReport state.keysDownState key
      press write).tracked).HoldsDown other) :
    state.HoldsDown other ∧ (press = false → other ≠ key) ∨
      press = true ∧ ¬ IsModifier key ∧ other = key := by
  obtain ⟨held, storable, stored⟩ := stores
  obtain ⟨notModifier, nonzero, member⟩ := down
  obtain ⟨after, -, after_eq, fromHeld, released⟩ :=
    exists_held_of_keypressReport storable stored key press write
  rw [withKeys, after_eq, PaddedBuffer.mem_store_iff nonzero] at member
  rcases fromHeld other member with old | pressed
  · left
    refine ⟨⟨notModifier, nonzero, ?_⟩, ?_⟩
    · rw [stored, PaddedBuffer.mem_store_iff nonzero]
      exact old
    · rintro isRelease rfl
      exact released isRelease notModifier member
  · exact Or.inr pressed

theorem clear_keys (write : HidWrite) :
    (state.clear true write).keysDownState.keys =
      ({} : KeysDownState).keys := by
  simp [clear, keyboardReport, keyboardClearStateKeys, withKeys,
    clearedOnRollOver, hidKeyBufferSize, hidErrorRollOver]

theorem storesKeys_keypress {press : Bool} {write : HidWrite}
    (stores : StoresKeys state.keysDownState.keys) :
    StoresKeys (UsbGadget.keypressReport state.keysDownState key press
      write).tracked.keys := by
  obtain ⟨held, storable, stored⟩ := stores
  obtain ⟨after, afterStorable, after_eq, -⟩ :=
    exists_held_of_keypressReport storable stored key press write
  exact ⟨after, afterStorable, after_eq⟩

namespace Invariant

variable (invariant : state.Invariant)
include invariant

theorem keypress (key : UInt8) (press : Bool) (write : HidWrite) :
    (state.keypress key press write).Invariant where
  stores := storesKeys_keypress invariant.stores
  guarded := by
    intro other down
    rcases holdsDown_keypress invariant.stores down with
      ⟨before, -⟩ | ⟨rfl, notModifier, rfl⟩
    · exact Guarded.continueWith (invariant.guarded other before) _
    · right
      rw [AutoRelease.keypress, timerSection_press notModifier]
      exact inFlight_of_continueWith List.mem_cons_self
  performing := fun key expired =>
    List.mem_append_left _ (invariant.performing key expired)

/-- A pending auto-release other than the finished section is still pending. -/
theorem performing_finish {current : Section} {other : UInt8}
    (expired : state.kbdAutoReleaseTimers other = some .expired)
    (distinct : .performAutoRelease other ≠ current) :
    .performAutoRelease other ∈ (state.finish current).running :=
  (List.mem_erase_of_ne distinct).mpr (invariant.performing other expired)

theorem scheduleAutoRelease (key : UInt8) :
    ((state.finish (.scheduleAutoRelease key)).setTimer key
      (some .armed)).Invariant where
  stores := invariant.stores
  guarded := by
    intro other down
    by_cases same : other = key
    · rw [same]
      exact guarded_setTimer_some .armed
    · apply Guarded.setTimer_of_ne _ same
      apply (invariant.guarded other down).finish
      simp [guards, Ne.symm same]
  performing := by
    intro other expired
    by_cases same : other = key
    · simp [setTimer, same] at expired
    · simp only [setTimer, if_neg same] at expired
      exact invariant.performing_finish expired nofun

theorem cancelAutoRelease (key : UInt8)
    (keeps : state.KeepsGuards (.cancelAutoRelease key)) :
    ((state.finish (.cancelAutoRelease key)).setTimer key none).Invariant where
  stores := invariant.stores
  guarded := by
    intro other down
    by_cases same : other = key
    · right
      rw [same] at down ⊢
      exact (keeps down).finish (by simp [guards])
    · apply Guarded.setTimer_of_ne _ same
      exact (invariant.guarded other down).finish (by simp [guards])
  performing := by
    intro other expired
    by_cases same : other = key
    · simp [setTimer, same] at expired
    · simp only [setTimer, if_neg same] at expired
      exact invariant.performing_finish expired nofun

theorem cancelAll (closing : Bool)
    (keeps : state.KeepsGuards (.cancelAllAutoReleaseTimers closing)) :
    (state.cancelAll closing).Invariant := by
  cases closing with
  | true =>
      refine ⟨invariant.stores, fun key _ => Or.inr ?_, nofun⟩
      exact inFlight_of_continueWith (by simp [guards])
  | false =>
      refine ⟨invariant.stores, fun key down => Or.inr ?_, nofun⟩
      exact (keeps.resolve_left Bool.false_ne_true) key down

/-- A clear leaves no key down; a skipped clear must not be the last guard. -/
theorem clear (ready : Bool) (write : HidWrite)
    (keeps : state.KeepsGuards (.clearKeyboard ready write)) :
    ((state.finish .clearKeyboard).clear ready write).Invariant := by
  have performing : ∀ key, state.kbdAutoReleaseTimers key = some .expired →
      .performAutoRelease key ∈ (state.finish .clearKeyboard).running :=
    fun key expired => invariant.performing_finish expired nofun
  cases ready with
  | true =>
      refine ⟨?_, ?_, performing⟩
      · rw [clear_keys]
        exact storesKeys_initial
      · rintro key ⟨-, nonzero, member⟩
        rw [clear_keys] at member
        exact absurd (List.eq_of_mem_replicate member) nonzero
  | false =>
      exact ⟨invariant.stores, keeps.resolve_left Bool.false_ne_true,
        performing⟩

theorem delay : state.delay.Invariant where
  stores := invariant.stores
  guarded := by
    intro key down
    apply (invariant.guarded key down).imp_left
    intro present cancelled
    exact present (Option.map_eq_none_iff.mp cancelled)
  performing := by
    intro key expired
    simp [AutoRelease.delay] at expired

theorem expire (key : UInt8) :
    ((state.setTimer key (some .expired)).continueWith
      [.performAutoRelease key]).Invariant where
  stores := invariant.stores
  guarded := by
    intro other down
    apply Guarded.continueWith
    by_cases same : other = key
    · rw [same]
      exact guarded_setTimer_some .expired
    · exact (invariant.guarded other down).setTimer_of_ne same _
  performing := by
    intro other expired
    by_cases same : other = key
    · rw [same]
      exact List.mem_append_right _ List.mem_cons_self
    · simp only [continueWith, setTimer, if_neg same] at expired
      exact List.mem_append_left _ (invariant.performing other expired)

/-- Once the timer is deleted the pending read of the keys guards the key. -/
theorem perform (key : UInt8) :
    ((state.finish (.performAutoRelease key)).perform key).Invariant := by
  unfold AutoRelease.perform
  cases timer : state.kbdAutoReleaseTimers key with
  | none =>
      rw [show (state.finish (.performAutoRelease key)).kbdAutoReleaseTimers
        key = none from timer]
      refine ⟨invariant.stores, fun other down => ?_, fun other expired => ?_⟩
      · exact (invariant.guarded other down).finish (by simp [guards])
      · apply invariant.performing_finish expired
        rintro ⟨rfl⟩
        rw [finish, timer] at expired
        cases expired
  | some phase =>
      rw [show (state.finish (.performAutoRelease key)).kbdAutoReleaseTimers
        key = some phase from timer]
      refine ⟨invariant.stores, fun other down => ?_, fun other expired => ?_⟩
      · by_cases same : other = key
        · right
          rw [same]
          exact inFlight_of_continueWith (by simp [guards])
        · apply Guarded.continueWith
          apply Guarded.setTimer_of_ne _ same
          exact (invariant.guarded other down).finish (by simp [guards])
      · by_cases same : other = key
        · simp [continueWith, setTimer, same] at expired
        · simp only [continueWith, setTimer, if_neg same] at expired
          apply List.mem_append_left
          apply invariant.performing_finish expired
          simp [same]

theorem readKeys (key : UInt8) :
    ((state.finish (.readKeysDown key)).readKeys key).Invariant := by
  have others : ∀ other, other ≠ key → state.HoldsDown other →
      (state.finish (.readKeysDown key)).Guarded other := by
    intro other distinct down
    apply (invariant.guarded other down).finish
    simp [guards, Ne.symm distinct]
  have performing : ∀ other,
      state.kbdAutoReleaseTimers other = some .expired →
      .performAutoRelease other ∈ (state.finish (.readKeysDown key)).running :=
    fun other expired => invariant.performing_finish expired nofun
  unfold AutoRelease.readKeys
  split_ifs with isDown
  · refine ⟨invariant.stores, fun other down => ?_, fun other expired => ?_⟩
    · by_cases same : other = key
      · right
        rw [same]
        exact inFlight_of_continueWith (by simp [guards])
      · exact (others other same down).continueWith _
    · exact List.mem_append_left _ (performing other expired)
  · refine ⟨invariant.stores, fun other down => ?_, performing⟩
    apply others other _ down
    rintro rfl
    exact isDown down.2.2

theorem release (key : UInt8) (write : HidWrite) :
    ((state.finish (.releaseKey key)).release key write).Invariant where
  stores := storesKeys_keypress invariant.stores
  guarded := by
    intro other down
    rcases holdsDown_keypress invariant.stores down with
      ⟨before, released⟩ | ⟨pressed, -⟩
    · have distinct := released rfl
      apply (invariant.guarded other before).finish
      simp [guards, Ne.symm distinct]
    · cases pressed
  performing := fun other expired =>
    invariant.performing_finish expired nofun

/-- Every step that keeps the guards keeps the invariant. -/
theorem step {next : AutoRelease} {label : Label}
    (keeps : state.KeepsGuards label)
    (taken : AutoRelease.step state label = some next) : next.Invariant := by
  cases label with
  | keypressReport key press write =>
      obtain rfl := Option.some.inj taken
      exact invariant.keypress key press write
  | scheduleAutoRelease key =>
      rw [eq_of_take_map taken]
      exact invariant.scheduleAutoRelease key
  | cancelAutoRelease key =>
      rw [eq_of_take_map taken]
      exact invariant.cancelAutoRelease key keeps
  | cancelAllAutoReleaseTimers closing =>
      obtain rfl := Option.some.inj taken
      exact invariant.cancelAll closing keeps
  | clearKeyboard ready write =>
      rw [eq_of_take_map taken]
      exact invariant.clear ready write keeps
  | delayAutoReleaseWithDuration =>
      obtain rfl := Option.some.inj taken
      exact invariant.delay
  | expire key =>
      simp only [AutoRelease.step] at taken
      split_ifs at taken
      obtain rfl := Option.some.inj taken
      exact invariant.expire key
  | performAutoRelease key =>
      rw [eq_of_take_map taken]
      exact invariant.perform key
  | readKeysDown key =>
      rw [eq_of_take_map taken]
      exact invariant.readKeys key
  | releaseKey key write =>
      rw [eq_of_take_map taken]
      exact invariant.release key write

end Invariant

/-- Every key that is down is guarded. -/
def AllGuarded (state : AutoRelease) : Prop :=
  ∀ key, state.HoldsDown key → state.Guarded key

theorem InFlight.of_finish {current : Section}
    (inFlight : (state.finish current).InFlight key) : state.InFlight key := by
  obtain ⟨guard, isGuard, present⟩ := inFlight
  exact ⟨guard, isGuard, List.mem_of_mem_erase present⟩

/-- A step after which every key that is down is guarded kept the guards. -/
theorem keepsGuards_of_allGuarded {next : AutoRelease} {label : Label}
    (taken : AutoRelease.step state label = some next)
    (guarded : next.AllGuarded) : state.KeepsGuards label := by
  cases label with
  | cancelAutoRelease key =>
      intro down
      rw [eq_of_take_map taken] at guarded
      rcases guarded key down with present | inFlight
      · simp [setTimer] at present
      · exact InFlight.of_finish inFlight
  | cancelAllAutoReleaseTimers closing =>
      obtain rfl := Option.some.inj taken
      cases closing with
      | true => exact Or.inl rfl
      | false =>
          refine Or.inr fun key down => ?_
          exact (guarded key down).resolve_left (fun present => present rfl)
  | clearKeyboard ready write =>
      rw [eq_of_take_map taken] at guarded
      cases ready with
      | true => exact Or.inl rfl
      | false => exact Or.inr guarded
  | _ => trivial

/-- The keys that are down are guarded throughout exactly the runs that never
take the last guard away. -/
theorem allGuarded_iff_keepsGuards (labels : List Label) :
    AllStates step AllGuarded {} labels ↔
      AllSteps step KeepsGuards {} labels :=
  allStates_iff_allSteps Invariant.guarded
    (fun invariant => invariant.step)
    (fun _ => keepsGuards_of_allGuarded) Invariant.initial labels

/-- In a run that never takes the last guard away from a key that is down, no
key is stuck in any state. -/
theorem no_stuck_key_of_keepsGuards (labels : List Label)
    (keeps : AllSteps step KeepsGuards {} labels) :
    AllStates step NoStuckKey {} labels :=
  (allStates_of_allSteps (fun invariant => invariant.step) Invariant.initial
    keeps).mono fun _ => Invariant.noStuckKey

/-- A key is pressed, released, and pressed again by another caller before the
first has cancelled the timer: the late cancel deletes the new timer. -/
def lateCancel : List Label :=
  [.keypressReport 4 true .delivered, .scheduleAutoRelease 4,
    .keypressReport 4 false .delivered, .keypressReport 4 true .delivered,
    .scheduleAutoRelease 4, .cancelAutoRelease 4]

theorem stuck_key_after_lateCancel :
    ¬ AllStates step NoStuckKey {} lateCancel := by
  intro noStuckKey
  have armed := noStuckKey.last rfl rfl 4 (by decide)
  cases armed

/-- A press, its timer, and a release by the same caller. -/
theorem no_stuck_key_of_keepsGuards_release :
    AllStates step NoStuckKey {}
      [.keypressReport 4 true .delivered, .scheduleAutoRelease 4,
        .keypressReport 4 false .timedOut, .cancelAutoRelease 4] := by
  apply no_stuck_key_of_keepsGuards
  apply allSteps_cons_of_step rfl trivial
  apply allSteps_cons_of_step rfl trivial
  apply allSteps_cons_of_step rfl trivial
  apply allSteps_cons_of_step rfl
  · intro down
    exact absurd down (by decide)
  · trivial

end AutoRelease

end UsbGadget

end JetKvm
