import Mathlib.Algebra.Group.Nat.Defs
import Mathlib.Logic.Function.Basic
import Mathlib.Tactic.Common

/-!
# The rate limiter of the password endpoints

Translation of `ratelimit.go`.  Times and durations are in nanoseconds; the
zero `time.Time` of an entry that was never locked is `none`.
-/

namespace JetKvm

namespace RateLimit

def second : Nat := 1000000000

def minute : Nat := 60 * second

def maxAttempts : Nat := 5

def baseWindow : Nat := 15 * minute

def maxBackoffLevel : Nat := 3

/-- `rateLimitEntry` -/
structure Entry where
  attempts : Nat
  windowStart : Nat
  backoffLevel : Nat := 0
  lockedUntil : Option Nat := none
  deriving DecidableEq, Repr

/-- `getWindowDuration`: 15 minutes, doubled with each backoff level. -/
def getWindowDuration (backoffLevel : Nat) : Nat :=
  baseWindow * 2 ^ min backoffLevel maxBackoffLevel

namespace Entry

/-- `now.Before(entry.lockedUntil)` -/
def locked (entry : Entry) (now : Nat) : Bool :=
  match entry.lockedUntil with
  | none => false
  | some lockedUntil => now < lockedUntil

/-- `now.After(entry.lockedUntil)` -/
def unlocked (entry : Entry) (now : Nat) : Bool :=
  match entry.lockedUntil with
  | none => true
  | some lockedUntil => lockedUntil < now

/-- `now.Sub(entry.windowStart) > windowDuration` -/
def expired (entry : Entry) (now : Nat) : Bool :=
  entry.windowStart + getWindowDuration entry.backoffLevel < now

/-- A failure after the window has expired starts a new one. -/
def restart (entry : Entry) (now : Nat) : Entry where
  attempts := 1
  windowStart := now
  backoffLevel :=
    if 0 < entry.backoffLevel ∨ maxAttempts ≤ entry.attempts then
      min (entry.backoffLevel + 1) maxBackoffLevel
    else entry.backoffLevel
  lockedUntil := none

/-- A failure within the window is counted and may lock the address out. -/
def count (entry : Entry) (now : Nat) : Entry :=
  { entry with
    attempts := entry.attempts + 1
    lockedUntil :=
      if maxAttempts ≤ entry.attempts + 1 then
        some (now + getWindowDuration entry.backoffLevel)
      else entry.lockedUntil }

def recordFailure (entry : Entry) (now : Nat) : Entry :=
  if entry.expired now then entry.restart now else entry.count now

/-- The sweep deletes the entry. -/
def stale (entry : Entry) (now : Nat) : Bool :=
  entry.unlocked now && entry.expired now

end Entry

structure RateLimiter where
  entries : String → Option Entry := fun _ => none

namespace RateLimiter

/-- `cleanup` -/
def cleanup (limiter : RateLimiter) (now : Nat) : RateLimiter where
  entries := fun ip => (limiter.entries ip).filter fun entry => !entry.stale now

/-- `IsAllowed`: whether an attempt is allowed, and after how many seconds to
try again.  Every other entry allows it, whether its window has expired, it is
under the limit, or it is at the limit but not locked. -/
def isAllowed (limiter : RateLimiter) (ip : String) (now : Nat) : Bool × Nat :=
  match limiter.entries ip with
  | none => (true, 0)
  | some entry =>
      if entry.locked now then
        (false, (entry.lockedUntil.getD 0 - now) / second + 1)
      else (true, 0)

def recordFailure (limiter : RateLimiter) (ip : String) (now : Nat) :
    RateLimiter where
  entries :=
    Function.update limiter.entries ip <| some <|
      match limiter.entries ip with
      | none => { attempts := 1, windowStart := now }
      | some entry => entry.recordFailure now

def recordSuccess (limiter : RateLimiter) (ip : String) : RateLimiter where
  entries := Function.update limiter.entries ip none

/-- The address is locked out. -/
def LockedOut (limiter : RateLimiter) (ip : String) (now : Nat) : Prop :=
  ∃ entry, limiter.entries ip = some entry ∧ entry.locked now = true

variable {limiter : RateLimiter} {ip : String} {now : Nat}

theorem isAllowed_iff :
    (limiter.isAllowed ip now).1 = true ↔ ¬ limiter.LockedOut ip now := by
  unfold isAllowed LockedOut
  cases found : limiter.entries ip with
  | none => simp
  | some entry => cases locked : entry.locked now <;> simp [locked]

@[simp]
theorem entries_recordSuccess :
    (limiter.recordSuccess ip).entries ip = none :=
  Function.update_self ..

@[simp]
theorem entries_recordFailure :
    (limiter.recordFailure ip now).entries ip = some
      (match limiter.entries ip with
      | none => { attempts := 1, windowStart := now }
      | some entry => entry.recordFailure now) :=
  Function.update_self ..

end RateLimiter

theorem baseWindow_pos : 0 < baseWindow := by
  decide

theorem baseWindow_le_getWindowDuration (backoffLevel : Nat) :
    baseWindow ≤ getWindowDuration backoffLevel :=
  Nat.le_mul_of_pos_right _ (Nat.two_pow_pos _)

/-! ### Windows -/

/-- The failed attempts since the first one of a window, and how often the
windows have been doubled -/
structure Window where
  start : Nat
  last : Nat
  failures : Nat := 1
  level : Nat := 0
  deriving DecidableEq, Repr

namespace Window

def expired (window : Window) (now : Nat) : Bool :=
  window.start + getWindowDuration window.level < now

/-- Five failures lock the address out for the length of the window. -/
def lockedUntil (window : Window) : Option Nat :=
  if maxAttempts ≤ window.failures then
    some (window.last + getWindowDuration window.level)
  else none

/-- One more failure, in the window or after it; a window is twice as long as
the one before that locked the address out. -/
def fail (window : Window) (now : Nat) : Window :=
  if window.expired now then
    { start := now
      last := now
      level :=
        if 0 < window.level ∨ maxAttempts ≤ window.failures then
          min (window.level + 1) maxBackoffLevel
        else window.level }
  else { window with last := now, failures := window.failures + 1 }

/-- The first failure opens a window. -/
def afterFailure (window : Option Window) (now : Nat) : Window :=
  match window with
  | none => { start := now, last := now }
  | some window => window.fail now

/-- The window and its lockout are over. -/
def isOver (window : Window) (now : Nat) : Bool :=
  window.lockedUntil.all (· < now) && window.expired now

/-- The entry that the limiter keeps for the window -/
def entry (window : Window) : Entry where
  attempts := window.failures
  windowStart := window.start
  backoffLevel := window.level
  lockedUntil := window.lockedUntil

theorem recordFailure_entry (window : Window) (now : Nat) :
    window.entry.recordFailure now = (window.fail now).entry := by
  have sameExpiry : window.entry.expired now = window.expired now := rfl
  unfold Entry.recordFailure Window.fail
  rw [sameExpiry]
  cases window.expired now with
  | true => rfl
  | false =>
      simp only [Bool.false_eq_true, if_false, Entry.count, Window.entry,
        Window.lockedUntil]
      by_cases full : maxAttempts ≤ window.failures
      · simp [Nat.le_add_right_of_le full]
      · simp [full]

theorem stale_entry (window : Window) (now : Nat) :
    window.entry.stale now = window.isOver now := by
  unfold Entry.stale Window.isOver Entry.unlocked
  simp only [Window.entry]
  cases window.lockedUntil <;> rfl

theorem recordFailure_of_window {limiter : RateLimiter} {ip : String}
    {window : Option Window} (now : Nat)
    (kept : limiter.entries ip = window.map Window.entry) :
    (limiter.recordFailure ip now).entries ip =
      some (afterFailure window now).entry := by
  rw [RateLimiter.entries_recordFailure, kept]
  cases window with
  | none => rfl
  | some window => exact congrArg some (window.recordFailure_entry now)

theorem cleanup_of_window {limiter : RateLimiter} {ip : String}
    {window : Option Window} (now : Nat)
    (kept : limiter.entries ip = window.map Window.entry) :
    (limiter.cleanup now).entries ip =
      (window.filter fun window => !window.isOver now).map Window.entry := by
  change (limiter.entries ip).filter _ = _
  rw [kept]
  cases window with
  | none => rfl
  | some window =>
      rw [Option.map_some, Option.filter_some, Option.filter_some,
        window.stale_entry]
      cases window.isOver now with
      | true => rfl
      | false => rfl

end Window

end RateLimit

end JetKvm