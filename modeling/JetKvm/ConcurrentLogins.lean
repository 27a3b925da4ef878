import JetKvm.LabelledRuns
import JetKvm.PasswordRateLimiter

/-!
# Concurrent login attempts from one address

`handleLogin` and `handleSharingLogin` ask the rate limiter, compare the
password and record the failure, each on its own.  The requests of a run all
carry wrong passwords and come from one address; a step is one of these
actions of some request, or the sweep of the limiter.
-/

namespace JetKvm

namespace ConcurrentLogins

open LabelledRuns RateLimit

inductive Phase where
  | refused
  | allowed
  | compared
  | recorded
  deriving DecidableEq, Repr

/-- `comparisons` counts those made before the address was first locked out,
and `firstFailure` is the time of the first failure that was recorded. -/
structure State where
  passwordRateLimiter : RateLimiter := {}
  now : Nat := 0
  requests : List Phase := []
  lockedOut : Bool := false
  comparisons : Nat := 0
  firstFailure : Option Nat := none

inductive Label where
  | isAllowed (time : Nat)
  | compareHashAndPassword (id : Nat)
  | recordFailure (id time : Nat)
  | cleanup (time : Nat)
  deriving DecidableEq, Repr

def locks (limiter : RateLimiter) (ip : String) (time : Nat) : Bool :=
  (limiter.entries ip).any fun entry => entry.locked time

def step (ip : String) (state : State) : Label → Option State
  | .isAllowed time =>
      if state.now ≤ time then
        let phase :=
          if (state.passwordRateLimiter.isAllowed ip time).1 then Phase.allowed
          else .refused
        some { state with now := time, requests := state.requests ++ [phase] }
      else none
  | .compareHashAndPassword id =>
      if state.requests[id]? = some .allowed then
        some
          { state with
            requests := state.requests.set id .compared
            comparisons :=
              if state.lockedOut then state.comparisons
              else state.comparisons + 1 }
      else none
  | .recordFailure id time =>
      if state.requests[id]? = some .compared ∧ state.now ≤ time then
        let limiter := state.passwordRateLimiter.recordFailure ip time
        some
          { state with
            passwordRateLimiter := limiter
            now := time
            requests := state.requests.set id .recorded
            lockedOut := state.lockedOut || locks limiter ip time
            firstFailure := some (state.firstFailure.getD time) }
      else none
  | .cleanup time =>
      if state.now ≤ time then
        let limiter := state.passwordRateLimiter.cleanup time
        some
          { state with
            passwordRateLimiter := limiter
            now := time }
      else none

/-- At most five comparisons are made before the address is locked out. -/
def Bounded (state : State) : Prop :=
  state.comparisons ≤ maxAttempts

def State.recorded (state : State) : Nat :=
  state.requests.count .recorded

def State.compared (state : State) : Nat :=
  state.requests.count .compared

/-- The requests past `IsAllowed` whose failures are not recorded yet -/
def State.inFlight (state : State) : Nat :=
  state.requests.count .allowed + state.compared

/-- Before the lockout a request is checked beside others in flight only while
these and the recorded failures are fewer than five, and no failure is recorded
and no sweep comes later than 15 minutes after the first failure. -/
def RecordedInTime (state : State) : Label → Prop
  | .isAllowed _ =>
      state.lockedOut = false → 0 < state.inFlight →
        state.recorded + state.inFlight < maxAttempts
  | .compareHashAndPassword _ => True
  | .recordFailure _ time | .cleanup time =>
      state.lockedOut = false → ∀ first ∈ state.firstFailure,
        time ≤ first + baseWindow

instance (state : State) (label : Label) :
    Decidable (RecordedInTime state label) :=
  match label with
  | .isAllowed _ => inferInstanceAs (Decidable (_ → _ → _))
  | .compareHashAndPassword _ => isTrue trivial
  | .recordFailure _ _ | .cleanup _ =>
      inferInstanceAs (Decidable (_ → ∀ _ ∈ _, _))

/-- The limiter counts the recorded failures in the window of the first. -/
def Counts (entry : Option Entry) (recorded : Nat) (first : Option Nat) : Prop :=
  match entry with
  | none => recorded = 0 ∧ first = none
  | some entry =>
      entry.attempts = recorded ∧ first = some entry.windowStart ∧
        entry.backoffLevel = 0 ∧ entry.lockedUntil = none

/-- Before the lockout fewer than five failures are recorded, and no more than
five requests have been let through. -/
structure Invariant (ip : String) (state : State) : Prop where
  bounded : Bounded state
  counts : state.lockedOut = false →
    Counts (state.passwordRateLimiter.entries ip) state.recorded
      state.firstFailure
  few : state.lockedOut = false → state.recorded < maxAttempts
  room : state.lockedOut = false →
    state.recorded + state.inFlight ≤ maxAttempts
  compared : state.lockedOut = false →
    state.comparisons = state.recorded + state.compared

variable {ip : String} {limiter : RateLimiter} {state next : State}
  {label : Label}

/-- A request that goes on from one phase to another -/
theorem count_set {requests : List Phase} {id : Nat} {before : Phase}
    (found : requests[id]? = some before) (after phase : Phase) :
    (requests.set id after).count phase +
        (if before = phase then 1 else 0) =
      requests.count phase + (if after = phase then 1 else 0) := by
  obtain ⟨inside, same⟩ := List.getElem?_eq_some_iff.mp found
  have present : before = phase → 0 < requests.count phase := by
    rintro rfl
    exact List.count_pos_iff.mpr (same ▸ List.getElem_mem inside)
  rw [List.count_set inside, same]
  simp only [beq_iff_eq]
  by_cases was : before = phase
  · have positive := present was
    rw [if_pos was]
    omega
  · rw [if_neg was]
    omega

/-- A failure in the window is counted, and the fifth locks the address out. -/
theorem Counts.recordFailure {recorded time : Nat} {first : Option Nat}
    (counts : Counts (limiter.entries ip) recorded first)
    (inTime : ∀ start ∈ first, time ≤ start + baseWindow)
    (few : recorded < maxAttempts)
    (open_ : locks (limiter.recordFailure ip time) ip time = false) :
    Counts ((limiter.recordFailure ip time).entries ip) (recorded + 1)
        (some (first.getD time)) ∧ recorded + 1 < maxAttempts := by
  unfold locks at open_
  rw [RateLimiter.entries_recordFailure] at open_ ⊢
  cases found : limiter.entries ip with
  | none =>
      rw [found] at counts
      obtain ⟨rfl, rfl⟩ := counts
      exact ⟨⟨rfl, rfl, rfl, rfl⟩, by decide⟩
  | some entry =>
      rw [found] at counts open_
      obtain ⟨rfl, rfl, level, unlocked⟩ := counts
      have length : getWindowDuration entry.backoffLevel = baseWindow := by
        rw [level]
        rfl
      have within := inTime _ rfl
      have current : entry.expired time = false := by
        simp only [Entry.expired, length, decide_eq_false_iff_not]
        omega
      have positive := baseWindow_pos
      simp only [Entry.recordFailure, current, Bool.false_eq_true, if_false,
        Entry.count, length, unlocked, Option.any_some] at open_ ⊢
      by_cases fifth : maxAttempts ≤ entry.attempts + 1
      · simp [fifth, Entry.locked, positive] at open_
      · rw [if_neg fifth]
        exact ⟨⟨rfl, rfl, level, rfl⟩, Nat.lt_of_not_le fifth⟩

/-- A sweep in the window leaves the entry alone. -/
theorem Counts.cleanup {recorded time : Nat} {first : Option Nat}
    (counts : Counts (limiter.entries ip) recorded first)
    (inTime : ∀ start ∈ first, time ≤ start + baseWindow) :
    (limiter.cleanup time).entries ip = limiter.entries ip := by
  simp only [RateLimiter.cleanup]
  cases found : limiter.entries ip with
  | none => rfl
  | some entry =>
      rw [found] at counts
      obtain ⟨-, rfl, level, -⟩ := counts
      have within := inTime _ rfl
      have length : getWindowDuration entry.backoffLevel = baseWindow := by
        rw [level]
        rfl
      have current : entry.expired time = false := by
        simp only [Entry.expired, length, decide_eq_false_iff_not]
        omega
      simp [Entry.stale, current]

theorem Invariant.step (invariant : Invariant ip state)
    (inTime : RecordedInTime state label)
    (taken : ConcurrentLogins.step ip state label = some next) :
    Invariant ip next := by
  obtain ⟨bounded, counts, few, room, compared⟩ := invariant
  simp only [State.inFlight] at room
  cases label with
  | isAllowed time =>
      simp only [ConcurrentLogins.step] at taken
      split at taken
      case isFalse => cases taken
      obtain rfl := Option.some.inj taken
      simp only [RecordedInTime, State.inFlight] at inTime
      split
      -- a request that is let through is in flight
      · constructor <;>
          simp only [Bounded, State.recorded, State.inFlight, State.compared,
            List.count_append, List.count_cons, List.count_nil, reduceCtorEq,
            beq_iff_eq, if_true, if_false, Nat.add_zero] at *
        · exact bounded
        · exact counts
        · exact few
        · intro notLocked
          have before := few notLocked
          have others := inTime notLocked
          omega
        · exact compared
      · constructor <;>
          simp only [Bounded, State.recorded, State.inFlight, State.compared,
            List.count_append, List.count_cons, List.count_nil, reduceCtorEq,
            beq_iff_eq, if_false, Nat.add_zero] at *
        · exact bounded
        · exact counts
        · exact few
        · exact room
        · exact compared
  | compareHashAndPassword id =>
      simp only [ConcurrentLogins.step] at taken
      split at taken
      case isFalse => cases taken
      rename_i found
      obtain rfl := Option.some.inj taken
      have change := count_set found .compared
      have allowed := change .allowed
      have isCompared := change .compared
      have recorded := change .recorded
      simp only [reduceCtorEq, if_true, if_false] at allowed isCompared recorded
      constructor <;>
        simp only [Bounded, State.recorded, State.inFlight,
          State.compared] at *
      · cases locked : state.lockedOut with
        | true => exact bounded
        | false =>
            have before := room locked
            have sum := compared locked
            rw [if_neg Bool.false_ne_true]
            omega
      · intro notLocked
        have same : (state.requests.set id .compared).count .recorded =
            state.requests.count .recorded := recorded
        rw [same]
        exact counts notLocked
      · intro notLocked
        have before := few notLocked
        omega
      · intro notLocked
        have before := room notLocked
        omega
      · intro notLocked
        have sum := compared notLocked
        rw [notLocked, if_neg Bool.false_ne_true]
        omega
  | recordFailure id time =>
      simp only [ConcurrentLogins.step] at taken
      split at taken
      case isFalse => cases taken
      rename_i enabled
      obtain rfl := Option.some.inj taken
      have change := count_set enabled.1 .recorded
      have allowed := change .allowed
      have isCompared := change .compared
      have recorded := change .recorded
      simp only [reduceCtorEq, if_true, if_false,
        Nat.add_zero] at allowed isCompared recorded
      have open_ (notLocked : (state.lockedOut || locks
          (state.passwordRateLimiter.recordFailure ip time) ip time) = false) :=
        Bool.or_eq_false_iff.mp notLocked
      have failure (notLocked) :=
        (counts (open_ notLocked).1).recordFailure (inTime (open_ notLocked).1)
          (few (open_ notLocked).1) (open_ notLocked).2
      constructor <;>
        simp only [Bounded, State.recorded, State.inFlight,
          State.compared] at *
      · exact bounded
      · intro notLocked
        rw [recorded]
        exact (failure notLocked).1
      · intro notLocked
        have next := (failure notLocked).2
        omega
      · intro notLocked
        have before := room (open_ notLocked).1
        omega
      · intro notLocked
        have sum := compared (open_ notLocked).1
        omega
  | cleanup time =>
      simp only [ConcurrentLogins.step] at taken
      split at taken
      case isFalse => cases taken
      obtain rfl := Option.some.inj taken
      refine ⟨bounded, fun notLocked => ?_, few, room, compared⟩
      have before := counts notLocked
      have same := before.cleanup (inTime notLocked)
      unfold Counts
      dsimp only
      rw [same]
      exact before

/-- A limiter that has no failure of the address on record. -/
def untried (limiter : RateLimiter) (ip : String) : State :=
  { passwordRateLimiter := limiter.recordSuccess ip }

/-- From a limiter without a recorded failure of the address, a run of
concurrent requests that are recorded in time makes at most five comparisons
before the lockout. -/
theorem bounded_of_recordedInTime (ip : String) (limiter : RateLimiter)
    (labels : List Label)
    (inTime : AllSteps (step ip) RecordedInTime (untried limiter ip) labels) :
    AllStates (step ip) Bounded (untried limiter ip) labels := by
  have initial : Invariant ip (untried limiter ip) := by
    refine ⟨Nat.zero_le _, fun _ => ?_, fun _ => Nat.zero_lt_succ _,
      fun _ => Nat.zero_le _, fun _ => rfl⟩
    simp [untried, Counts, State.recorded]
  exact (allStates_of_allSteps Invariant.step initial inTime).mono
    fun _ invariant => invariant.bounded

/-- Two requests are compared at once, three more one after the other, and the
next is refused. -/
def fiveInTime : List Label :=
  [.isAllowed 1, .isAllowed 1, .compareHashAndPassword 0,
    .compareHashAndPassword 1, .recordFailure 1 2, .recordFailure 0 2] ++
  [2, 3, 4].flatMap (fun id =>
    [.isAllowed id, .compareHashAndPassword id, .recordFailure id id]) ++
  [.isAllowed 5, .cleanup 6]

theorem bounded_fiveInTime :
    AllStates (step "192.168.1.7") Bounded (untried {} "192.168.1.7")
      fiveInTime :=
  bounded_of_recordedInTime _ _ _ (by decide)

/-- Six requests are all allowed before the first of them is compared. -/
def sixAtOnce : List Label :=
  List.replicate 6 (.isAllowed 1) ++
    (List.range 6).map .compareHashAndPassword

theorem six_comparisons_at_once :
    ¬ AllStates (step "192.168.1.7") Bounded (untried {} "192.168.1.7")
      sixAtOnce := by
  intro bounded
  have last := bounded.last rfl
  exact absurd (show 6 ≤ maxAttempts from last) (by decide)

end ConcurrentLogins

end JetKvm
