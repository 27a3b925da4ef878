import Mathlib.Data.List.Basic
import Mathlib.Tactic.SplitIfs

/-!
# Go channels

A buffered channel and what one operation on it comes to.  An operation is
given a reference, which is nil or a channel: a send on nil blocks forever, a
send on a closed channel and a close of nil or of a closed channel panic.
-/

namespace JetKvm

structure Channel (α : Type*) where
  capacity : Nat
  buffer : List α := []
  closed : Bool := false
  deriving DecidableEq, Repr

/-- What an operation comes to. -/
inductive Attempt (β : Type*) where
  | returns (result : β)
  | blocks
  | panics (reason : String)
  deriving DecidableEq, Repr

theorem Attempt.not_panics_of_returns {β : Type*} {attempt : Attempt β}
    {result : β} (returned : attempt = .returns result) :
    ¬ ∃ reason, attempt = .panics reason := by
  rintro ⟨reason, panicked⟩
  rw [returned] at panicked
  cases panicked

namespace Channel

variable {α : Type*}

/-- `ch <- value` -/
def send (value : α) : Option (Channel α) → Attempt (Channel α)
  | none => .blocks
  | some channel =>
      if channel.closed then .panics "send on closed channel"
      else if channel.buffer.length < channel.capacity then
        .returns { channel with buffer := channel.buffer ++ [value] }
      else .blocks

/-- `select { case ch <- value: default: }`: the channel afterwards, or nothing
when the value was dropped. -/
def trySend (value : α) (reference : Option (Channel α)) :
    Attempt (Option (Channel α)) :=
  match send value reference with
  | .returns channel => .returns (some channel)
  | .blocks => .returns none
  | .panics reason => .panics reason

/-- `close(ch)` -/
def close : Option (Channel α) → Attempt (Channel α)
  | none => .panics "close of nil channel"
  | some channel =>
      if channel.closed then .panics "close of closed channel"
      else .returns { channel with closed := true }

/-- One round of `for value := range ch`: the next value, or nothing when the
loop ends. -/
def receive (channel : Channel α) : Attempt (Option α × Channel α) :=
  match channel.buffer with
  | value :: rest => .returns (some value, { channel with buffer := rest })
  | [] => if channel.closed then .returns (none, channel) else .blocks

variable {value : α} {reference : Option (Channel α)} {channel after : Channel α}

theorem send_panics_iff :
    (∃ reason, send value reference = .panics reason) ↔
      ∃ channel, reference = some channel ∧ channel.closed = true := by
  cases reference with
  | none => simp [send]
  | some channel =>
      simp only [send]
      split_ifs with closed room
      · simp [closed]
      · simp [closed]
      · simp [closed]

theorem trySend_panics_iff :
    (∃ reason, trySend value reference = .panics reason) ↔
      ∃ channel, reference = some channel ∧ channel.closed = true := by
  refine Iff.trans ?_ (@send_panics_iff _ value reference)
  unfold trySend
  cases send value reference <;> simp

theorem close_panics_iff :
    (∃ reason, close reference = .panics reason) ↔
      ∀ channel, reference = some channel → channel.closed = true := by
  cases reference with
  | none => simp [close]
  | some channel =>
      simp only [close]
      split_ifs with closed
      · simp [closed]
      · simp [closed]

theorem closed_of_send (sent : send value (some channel) = .returns after) :
    after.closed = channel.closed := by
  simp only [send] at sent
  split_ifs at sent
  cases sent
  rfl

theorem closed_of_trySend
    (sent : trySend value (some channel) = .returns (some after)) :
    after.closed = channel.closed := by
  unfold trySend at sent
  cases result : send value (some channel) with
  | returns next =>
      simp only [result, Attempt.returns.injEq, Option.some.injEq] at sent
      subst sent
      exact closed_of_send result
  | blocks => simp [result] at sent
  | panics reason => simp [result] at sent

theorem closed_of_close (closes : close (some channel) = .returns after) :
    after.closed = true := by
  simp only [close] at closes
  split_ifs at closes
  cases closes
  rfl

theorem closed_of_receive {next : Option α}
    (received : receive channel = .returns (next, after)) :
    after.closed = channel.closed := by
  unfold receive at received
  split at received
  · cases received
    rfl
  · split_ifs at received
    cases received
    rfl

end Channel

end JetKvm
