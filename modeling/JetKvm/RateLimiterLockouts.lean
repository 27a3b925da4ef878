import JetKvm.LabelledRuns
import JetKvm.PasswordRateLimiter

/-!
# Lockouts of one address

The calls of the rate limiter for one address, at times that do not run
backwards, with the sweeps of the clean-up among them.  A failure is recorded
only right after `IsAllowed` has allowed the attempt.  Beside the limiter a run
counts the failures of each window.
-/

namespace JetKvm

namespace RateLimit

namespace Lockouts

open LabelledRuns

/-- The fifth failure of a window: its time and the level of the window.
A lockout is cleared when an attempt succeeds. -/
structure Lockout where
  time : Nat
  backoffLevel : Nat
  cleared : Bool := false
  deriving DecidableEq, Repr

/-- 15 minutes, doubled with each backoff level, after the fifth failure -/
def Lockout.lockedUntil (lockout : Lockout) : Nat :=
  lockout.time + 15 * minute * 2 ^ lockout.backoffLevel

/-- `allowed` tells whether the last call was an `IsAllowed` that returned true;
`window` counts the failures, and `lockouts` lists the fifth failures of all
windows so far. -/
structure State where
  now : Nat := 0
  limiter : RateLimiter := {}
  allowed : Bool := false
  window : Option Window := none
  lockouts : List Lockout := []

inductive Label where
  | isAllowed (now : Nat)
  | recordFailure (now : Nat)
  | recordSuccess (now : Nat)
  | cleanup (now : Nat)
  deriving DecidableEq, Repr

def Label.time : Label → Nat
  | .isAllowed now | .recordFailure now | .recordSuccess now | .cleanup now =>
      now

/-- A failure that is the fifth of its window is a lockout. -/
def lockoutOf (window : Window) : List Lockout :=
  if window.failures = maxAttempts then [⟨window.last, window.level, false⟩]
  else []

def State.call (ip : String) (state : State) : Label → State
  | .isAllowed now =>
      { state with now := now, allowed := (state.limiter.isAllowed ip now).1 }
  | .recordFailure now =>
      let window := Window.afterFailure state.window now
      { now := now
        limiter := state.limiter.recordFailure ip now
        allowed := false
        window := some window
        lockouts := lockoutOf window ++ state.lockouts }
  | .recordSuccess now =>
      { now := now
        limiter := state.limiter.recordSuccess ip
        allowed := false
        window := none
        lockouts :=
          state.lockouts.map fun lockout => { lockout with cleared := true } }
  | .cleanup now =>
      { state with
        now := now
        limiter := state.limiter.cleanup now
        allowed := false
        window := state.window.filter fun window => !window.isOver now }

/-- The protocol of `handleLogin`: no failure without an `IsAllowed` that
returned true right before it -/
def Label.Follows (label : Label) (state : State) : Prop :=
  state.now ≤ label.time ∧
    ∀ now, label = .recordFailure now → state.allowed = true

instance (label : Label) (state : State) : Decidable (label.Follows state) :=
  match label with
  | .recordFailure now =>
      decidable_of_iff (state.now ≤ now ∧ state.allowed = true)
        (by simp [Label.Follows, Label.time])
  | .isAllowed now | .recordSuccess now | .cleanup now =>
      decidable_of_iff (state.now ≤ now) (by simp [Label.Follows, Label.time])

def step (ip : String) (state : State) (label : Label) : Option State :=
  if label.Follows state then some (state.call ip label) else none

/-- The lockout rejects every attempt until it ends. -/
def Lockout.Rejects (lockout : Lockout) (ip : String) (state : State) : Prop :=
  ∀ now, state.now ≤ now → now < lockout.lockedUntil →
    (state.limiter.isAllowed ip now).1 = false

/-- What is expected of the answers and the entry, which is that of the window,
whichever lockouts are to hold -/
structure Limits (holding : Lockout → Prop) (ip : String) (state : State) :
    Prop where
  entry : state.limiter.entries ip = state.window.map Window.entry
  locksOut : ∀ lockout ∈ state.lockouts, holding lockout →
    lockout.Rejects ip state
  retryAfter : ∀ now seconds, state.now ≤ now →
    state.limiter.isAllowed ip now = (false, seconds) →
      1 ≤ seconds ∧
        (state.limiter.isAllowed ip (now + seconds * second)).1 = true
  backoffLevel : ∀ entry, state.limiter.entries ip = some entry →
    entry.backoffLevel ≤ maxBackoffLevel
  grows : ∀ label next, step ip state label = some next →
    ∀ entry after, state.limiter.entries ip = some entry →
      next.limiter.entries ip = some after →
        entry.backoffLevel ≤ after.backoffLevel

/-- Every lockout that was not cleared is over, or the entry is locked at least
as long; and it is over when the next failure may be recorded. -/
structure Invariant (ip : String) (state : State) : Prop where
  entry : state.limiter.entries ip = state.window.map Window.entry
  backoffLevel : ∀ entry, state.limiter.entries ip = some entry →
    entry.backoffLevel ≤ maxBackoffLevel
  holds : ∀ lockout ∈ state.lockouts, lockout.cleared = false →
    lockout.lockedUntil ≤ state.now ∨
      ∃ entry lockedUntil, state.limiter.entries ip = some entry ∧
        entry.lockedUntil = some lockedUntil ∧
        lockout.lockedUntil ≤ lockedUntil
  isOver : state.allowed = true → ∀ lockout ∈ state.lockouts,
    lockout.cleared = false → lockout.lockedUntil ≤ state.now

section Answers

variable {limiter : RateLimiter} {ip : String} {now : Nat} {entry : Entry}

theorem isAllowed_of_lockedUntil {lockedUntil : Nat}
    (found : limiter.entries ip = some entry)
    (locked : entry.lockedUntil = some lockedUntil) :
    (limiter.isAllowed ip now).1 = decide (lockedUntil ≤ now) := by
  simp only [RateLimiter.isAllowed, found, Entry.locked, locked]
  by_cases isOver : lockedUntil ≤ now
  · simp [isOver, Nat.not_lt.mpr isOver]
  · simp [isOver, Nat.lt_of_not_le isOver]

/-- After the seconds that the answer names the lock is over. -/
theorem isAllowed_retryAfter {seconds : Nat}
    (rejected : limiter.isAllowed ip now = (false, seconds)) :
    1 ≤ seconds ∧ (limiter.isAllowed ip (now + seconds * second)).1 = true := by
  cases found : limiter.entries ip with
  | none => simp [RateLimiter.isAllowed, found] at rejected
  | some entry =>
      simp only [RateLimiter.isAllowed, found] at rejected
      split_ifs at rejected with locked
      · obtain ⟨-, rfl⟩ := Prod.mk.inj rejected
        refine ⟨Nat.le_add_left .., ?_⟩
        cases ending : entry.lockedUntil with
        | none => simp [Entry.locked, ending] at locked
        | some lockedUntil =>
            rw [isAllowed_of_lockedUntil found ending]
            have positive : 0 < second := by decide
            have rest := @Nat.lt_div_mul_add (lockedUntil - now) second positive
            rw [Option.getD_some, Nat.add_mul, Nat.one_mul]
            exact decide_eq_true (by omega)
      · cases rejected

/-- A failure does not lower the backoff level. -/
theorem backoffLevel_recordFailure (entry : Entry) (now : Nat)
    (bounded : entry.backoffLevel ≤ maxBackoffLevel) :
    entry.backoffLevel ≤ (entry.recordFailure now).backoffLevel ∧
      (entry.recordFailure now).backoffLevel ≤ maxBackoffLevel := by
  unfold Entry.recordFailure
  split_ifs
  · simp only [Entry.restart]
    split_ifs
    · omega
    · omega
  · exact ⟨Nat.le_refl _, bounded⟩

/-- The fifth failure of a window locks the entry. -/
theorem lockedUntil_of_lockout {window : Window} {lockout : Lockout}
    (bounded : window.level ≤ maxBackoffLevel)
    (isLockout : lockout ∈ lockoutOf window) :
    window.entry.lockedUntil = some lockout.lockedUntil := by
  unfold lockoutOf at isLockout
  split_ifs at isLockout with fifth
  · obtain rfl := List.mem_singleton.mp isLockout
    simp only [Window.entry, Window.lockedUntil, fifth, Nat.le_refl, if_true,
      Lockout.lockedUntil, getWindowDuration, Nat.min_eq_left bounded, baseWindow]
  · cases isLockout

end Answers

/-! ### The steps -/

section Steps

variable {ip : String} {state next : State} {label : Label}

theorem invariant_initial (ip : String) : Invariant ip {} where
  entry := rfl
  backoffLevel := nofun
  holds := nofun
  isOver := nofun

namespace Invariant

theorem isAllowed (invariant : Invariant ip state) {now : Nat}
    (later : state.now ≤ now) :
    Invariant ip (state.call ip (.isAllowed now)) where
  entry := invariant.entry
  backoffLevel := invariant.backoffLevel
  holds lockout member kept :=
    (invariant.holds lockout member kept).imp_left fun isOver =>
      Nat.le_trans isOver later
  isOver allowed lockout member kept := by
    rcases invariant.holds lockout member kept with isOver | locked
    · exact Nat.le_trans isOver later
    · obtain ⟨entry, lockedUntil, found, ending, within⟩ := locked
      have allowed : (state.limiter.isAllowed ip now).1 = true := allowed
      rw [isAllowed_of_lockedUntil found ending] at allowed
      exact Nat.le_trans within (of_decide_eq_true allowed)

theorem recordFailure (invariant : Invariant ip state) {now : Nat}
    (later : state.now ≤ now) (allowed : state.allowed = true) :
    Invariant ip (state.call ip (.recordFailure now)) := by
  have kept := Window.recordFailure_of_window now invariant.entry
  have bounded : (Window.afterFailure state.window now).level ≤
      maxBackoffLevel := by
    have found := invariant.entry
    cases held : state.window with
    | none => exact Nat.zero_le _
    | some window =>
        rw [held] at found
        have level := backoffLevel_recordFailure window.entry now
          (invariant.backoffLevel _ found)
        rw [window.recordFailure_entry] at level
        exact level.2
  refine ⟨kept, fun after found => ?_, fun lockout member uncleared => ?_, nofun⟩
  · obtain rfl := Option.some.inj (kept.symm.trans found)
    exact bounded
  · rcases List.mem_append.mp member with new | old
    · exact .inr ⟨_, _, kept, lockedUntil_of_lockout bounded new, Nat.le_refl _⟩
    · exact .inl
        (Nat.le_trans (invariant.isOver allowed lockout old uncleared) later)

theorem recordSuccess (ip : String) (state : State) (now : Nat) :
    Invariant ip (state.call ip (.recordSuccess now)) where
  entry := RateLimiter.entries_recordSuccess
  backoffLevel entry found := by
    rw [State.call, RateLimiter.entries_recordSuccess] at found
    cases found
  holds lockout member kept := by
    obtain ⟨old, -, rfl⟩ := List.mem_map.mp member
    cases kept
  isOver := nofun

theorem cleanup (invariant : Invariant ip state) {now : Nat}
    (later : state.now ≤ now) :
    Invariant ip (state.call ip (.cleanup now)) where
  entry := Window.cleanup_of_window now invariant.entry
  backoffLevel entry found :=
    invariant.backoffLevel entry (Option.filter_eq_some_iff.mp found).1
  holds lockout member kept := by
    rcases invariant.holds lockout member kept with isOver | locked
    · exact .inl (Nat.le_trans isOver later)
    · obtain ⟨entry, lockedUntil, found, ending, within⟩ := locked
      cases stale : entry.stale now with
      | true =>
          -- only an entry whose lock is over is deleted
          have unlocked := (Bool.and_eq_true_iff.mp stale).1
          simp only [Entry.unlocked, ending, decide_eq_true_eq] at unlocked
          exact .inl (Nat.le_trans within (Nat.le_of_lt unlocked))
      | false =>
          refine .inr ⟨entry, lockedUntil, ?_, ending, within⟩
          exact Option.filter_eq_some_iff.mpr ⟨found, by simp [stale]⟩
  isOver := nofun

theorem step (invariant : Invariant ip state)
    (taken : Lockouts.step ip state label = some next) : Invariant ip next := by
  simp only [Lockouts.step, Option.ite_none_right_eq_some] at taken
  obtain ⟨⟨later, protocol⟩, same⟩ := taken
  obtain rfl := Option.some.inj same
  cases label with
  | isAllowed now => exact invariant.isAllowed later
  | recordFailure now => exact invariant.recordFailure later (protocol now rfl)
  | recordSuccess now => exact .recordSuccess ip state now
  | cleanup now => exact invariant.cleanup later

theorem rejects (invariant : Invariant ip state) {lockout : Lockout}
    (member : lockout ∈ state.lockouts) (kept : lockout.cleared = false) :
    lockout.Rejects ip state := by
  intro now later before
  rcases invariant.holds lockout member kept with isOver | locked
  · omega
  · obtain ⟨entry, lockedUntil, found, ending, within⟩ := locked
    rw [isAllowed_of_lockedUntil found ending]
    exact decide_eq_false (by omega)

/-- A call leaves the backoff level of an entry or raises it. -/
theorem grows (invariant : Invariant ip state) {entry after : Entry}
    (taken : Lockouts.step ip state label = some next)
    (before : state.limiter.entries ip = some entry)
    (found : next.limiter.entries ip = some after) :
    entry.backoffLevel ≤ after.backoffLevel := by
  simp only [Lockouts.step, Option.ite_none_right_eq_some] at taken
  obtain rfl := Option.some.inj taken.2
  cases label with
  | isAllowed now =>
      obtain rfl := Option.some.inj (before.symm.trans found)
      exact Nat.le_refl _
  | recordFailure now =>
      have same := RateLimiter.entries_recordFailure.symm.trans found
      rw [before] at same
      obtain rfl := Option.some.inj same
      exact (backoffLevel_recordFailure entry now
        (invariant.backoffLevel entry before)).1
  | recordSuccess now =>
      rw [State.call, RateLimiter.entries_recordSuccess] at found
      cases found
  | cleanup now =>
      have kept := (Option.filter_eq_some_iff.mp found).1
      obtain rfl := Option.some.inj (before.symm.trans kept)
      exact Nat.le_refl _

theorem limits (invariant : Invariant ip state) :
    Limits (fun lockout => lockout.cleared = false) ip state where
  entry := invariant.entry
  locksOut _ := invariant.rejects
  retryAfter _ _ _ := isAllowed_retryAfter
  backoffLevel := invariant.backoffLevel
  grows _ _ taken _ _ := invariant.grows taken

end Invariant

end Steps

/-- In every run the lockouts hold that were not cleared by an attempt that
succeeded. -/
theorem allStates_limits (ip : String) (labels : List Label) :
    AllStates (step ip) (Limits (fun lockout => lockout.cleared = false) ip) {}
      labels := by
  have everywhere : AllStates (step ip) (Invariant ip) {} labels :=
    allStates_of_invariant Invariant.step (invariant_initial ip) labels
  exact everywhere.mono fun _ => Invariant.limits

/-- Five failed attempts and one that succeeded: it began before the fifth
failure. -/
def successAfterLockout : List Label :=
  (List.replicate 5 [.isAllowed 0, .recordFailure 0]).flatten ++
    [.recordSuccess 0]

theorem successAfterLockout_not_limited :
    ¬ ∀ ip labels,
      AllStates (step ip) (Limits (fun _ => True) ip) {} labels := by
  intro limited
  have atEnd := (limited "192.168.1.2" successAfterLockout).last rfl
  have rejects := atEnd.locksOut ⟨0, 0, true⟩ (by decide) trivial
  have rejected := rejects 0 (by decide) (by decide)
  revert rejected
  decide

end Lockouts

end RateLimit

end JetKvm
