import Mathlib.Tactic.SplitIfs

/-!
# The recovery of an audio transfer

Translation of the loops around `snd_pcm_readi` and `snd_pcm_writei` in
`internal/audio/c/audio.c`.  Both functions count their attempts in
`recovery_attempts` and recover in the same way from `EPIPE`, `ESTRPIPE` and
`EIO`; a read that returns `EAGAIN` is retried without being counted.
-/

namespace JetKvm

namespace AudioRecovery

def eintr : Int := 4
def eio : Int := 5
def eagain : Int := 11
def ebusy : Int := 16
def enodev : Int := 19
def epipe : Int := 32
def estrpipe : Int := 86

/-- The calls of ALSA; a transfer is `snd_pcm_readi` or `snd_pcm_writei`. -/
inductive AlsaCall where
  | transfer
  | prepare
  | drop
  | wait
  | resume
  deriving DecidableEq, Repr

/-- Where the code waits for the result of a call -/
inductive Point where
  | transfer
  | prepare
  | dropToPrepare
  | prepareAgain
  | resume (resumeAttempts : Nat)
  | waitToResume (resumeAttempts : Nat)
  | prepareSuspended
  | dropAfterError
  | prepareAfterError
  | waitToRetry
  deriving DecidableEq, Repr

def Point.call : Point → AlsaCall
  | .transfer => .transfer
  | .prepare | .prepareAgain | .prepareSuspended | .prepareAfterError => .prepare
  | .dropToPrepare | .dropAfterError => .drop
  | .waitToResume _ | .waitToRetry => .wait
  | .resume _ => .resume

/-- `recoveryAttempts` never exceeds four, so that an octet holds it. -/
inductive Control where
  | calling (point : Point) (recoveryAttempts : Nat)
  | transferred (pcmRc : Int)
  | returned (rc : Int)
  deriving DecidableEq, Repr

def maxRecoveryAttempts : Nat := 3

def maxResumeAttempts : Nat := 10

/-- A read that failed with an error -/
def readFailed (recoveryAttempts : Nat) (pcmRc : Int) : Control :=
  if pcmRc = -epipe then
    if recoveryAttempts + 1 > maxRecoveryAttempts then .returned (-1)
    else .calling .prepare (recoveryAttempts + 1)
  else if pcmRc = -eagain then .calling .waitToRetry recoveryAttempts
  else if pcmRc = -estrpipe then
    if recoveryAttempts + 1 > maxRecoveryAttempts then .returned (-1)
    else .calling (.resume 0) (recoveryAttempts + 1)
  else if pcmRc = -enodev then .returned (-1)
  else if pcmRc = -eio then
    if recoveryAttempts + 1 ≤ maxRecoveryAttempts then
      .calling .dropAfterError (recoveryAttempts + 1)
    else .returned (-1)
  else if recoveryAttempts + 1 ≤ 1 ∧ pcmRc = -eintr then
    .calling .transfer (recoveryAttempts + 1)
  else if recoveryAttempts + 1 ≤ 1 ∧ pcmRc = -ebusy then
    .calling .waitToRetry (recoveryAttempts + 1)
  else .returned (-1)

/-- A write that failed with an error -/
def writeFailed (recoveryAttempts : Nat) (pcmRc : Int) : Control :=
  if pcmRc = -epipe then
    if recoveryAttempts + 1 > maxRecoveryAttempts then .returned (-2)
    else .calling .prepare (recoveryAttempts + 1)
  else if pcmRc = -estrpipe then
    if recoveryAttempts + 1 > maxRecoveryAttempts then .returned (-2)
    else .calling (.resume 0) (recoveryAttempts + 1)
  else if pcmRc = -enodev then .returned (-2)
  else if pcmRc = -eio then
    if recoveryAttempts + 1 ≤ maxRecoveryAttempts then
      .calling .dropAfterError (recoveryAttempts + 1)
    else .returned (-2)
  else if pcmRc = -eagain then
    if recoveryAttempts + 1 ≤ maxRecoveryAttempts then
      .calling .waitToRetry (recoveryAttempts + 1)
    else .returned (-2)
  else if recoveryAttempts + 1 ≤ 1 ∧ (pcmRc = -eintr ∨ pcmRc = -ebusy) then
    .calling .waitToRetry (recoveryAttempts + 1)
  else .returned (-2)

/-- What follows on the result of the call that is made at a point; `failed` is
what the function returns when it cannot recover. -/
def proceed (transferFailed : Nat → Int → Control) (failed : Int)
    (point : Point) (recoveryAttempts : Nat) (rc : Int) : Control :=
  match point with
  | .transfer =>
      if rc < 0 then transferFailed recoveryAttempts rc else .transferred rc
  | .prepare =>
      if rc < 0 then .calling .dropToPrepare recoveryAttempts
      else .calling .transfer recoveryAttempts
  | .dropToPrepare => .calling .prepareAgain recoveryAttempts
  | .prepareAgain =>
      if rc < 0 then .returned failed else .calling .transfer recoveryAttempts
  | .resume resumeAttempts =>
      if rc = -eagain ∧ resumeAttempts < maxResumeAttempts then
        .calling (.waitToResume resumeAttempts) recoveryAttempts
      else if rc < 0 then .calling .prepareSuspended recoveryAttempts
      -- the frame is skipped
      else .returned 0
  | .waitToResume resumeAttempts =>
      .calling (.resume (resumeAttempts + 1)) recoveryAttempts
  | .prepareSuspended => if rc < 0 then .returned failed else .returned 0
  | .dropAfterError => .calling .prepareAfterError recoveryAttempts
  | .prepareAfterError =>
      if rc ≥ 0 then .calling .transfer recoveryAttempts else .returned failed
  | .waitToRetry => .calling .transfer recoveryAttempts

def proceedRead : Point → Nat → Int → Control := proceed readFailed (-1)

def proceedWrite : Point → Nat → Int → Control := proceed writeFailed (-2)

/-! ### How a recovery ends -/

/-- The read is retried or given up. -/
theorem readFailed_cases (recoveryAttempts : Nat) (pcmRc : Int) :
    (∃ point attempts, readFailed recoveryAttempts pcmRc = .calling point attempts) ∨
      readFailed recoveryAttempts pcmRc = .returned (-1) := by
  unfold readFailed
  split_ifs <;> simp

/-- What a call of the capture leads to: another call, an error, a frame that is
skipped, or a read that succeeded. -/
inductive Proceeded (point : Point) (rc : Int) : Control → Prop
  | calling (next : Point) (recoveryAttempts : Nat) :
      Proceeded point rc (.calling next recoveryAttempts)
  | failed : Proceeded point rc (.returned (-1))
  | skipped : Proceeded point rc (.returned 0)
  | transferred : point = .transfer → 0 ≤ rc → Proceeded point rc (.transferred rc)

theorem proceeded_proceedRead (point : Point) (recoveryAttempts : Nat) (rc : Int) :
    Proceeded point rc (proceedRead point recoveryAttempts rc) := by
  unfold proceedRead
  cases point with
  | transfer =>
      simp only [proceed]
      split_ifs with fails
      · obtain ⟨next, attempts, calls⟩ | gives := readFailed_cases recoveryAttempts rc
        · rw [calls]
          exact .calling next attempts
        · rw [gives]
          exact .failed
      · exact .transferred rfl (by omega)
  | _ =>
      simp only [proceed]
      try split_ifs
      all_goals first
        | exact .calling _ _
        | exact .failed
        | exact .skipped

/-! ### How many calls are left -/

/-- The calls from a transfer on: each attempt but the last takes four at most,
and a suspended device twenty-two after the transfer. -/
def callsFrom (recoveryAttempts : Nat) : Nat :=
  if recoveryAttempts < maxRecoveryAttempts then 31 - 4 * recoveryAttempts else 1

def Point.calls (recoveryAttempts : Nat) : Point → Nat
  | .transfer => callsFrom recoveryAttempts
  | .prepare => callsFrom recoveryAttempts + 3
  | .dropToPrepare | .dropAfterError => callsFrom recoveryAttempts + 2
  | .prepareAgain | .prepareAfterError | .waitToRetry =>
      callsFrom recoveryAttempts + 1
  | .resume resumeAttempts => 2 * (maxResumeAttempts - resumeAttempts) + 2
  | .waitToResume resumeAttempts =>
      2 * (maxResumeAttempts - (resumeAttempts + 1)) + 3
  | .prepareSuspended => 1

def Control.calls : Control → Nat
  | .calling point recoveryAttempts => point.calls recoveryAttempts
  | .transferred _ | .returned _ => 0

section Calls

variable {recoveryAttempts : Nat} {point : Point}

theorem callsFrom_pos (recoveryAttempts : Nat) : 1 ≤ callsFrom recoveryAttempts := by
  unfold callsFrom maxRecoveryAttempts
  split_ifs <;> omega

/-- An attempt that is counted leaves fewer calls. -/
theorem callsFrom_succ (inTime : recoveryAttempts + 1 ≤ maxRecoveryAttempts) :
    callsFrom (recoveryAttempts + 1) + 4 ≤ callsFrom recoveryAttempts ∧
      23 ≤ callsFrom recoveryAttempts := by
  unfold callsFrom maxRecoveryAttempts at *
  split_ifs <;> omega

theorem calls_readFailed (recoveryAttempts : Nat) (pcmRc : Int) :
    (readFailed recoveryAttempts pcmRc).calls + 1 ≤
      callsFrom recoveryAttempts + if pcmRc = -eagain then 2 else 0 := by
  have pos := callsFrom_pos recoveryAttempts
  have succ := @callsFrom_succ recoveryAttempts
  unfold readFailed maxRecoveryAttempts at *
  split_ifs <;> simp only [Control.calls, Point.calls, maxResumeAttempts] <;> omega

theorem calls_writeFailed (recoveryAttempts : Nat) (pcmRc : Int) :
    (writeFailed recoveryAttempts pcmRc).calls + 1 ≤ callsFrom recoveryAttempts := by
  have pos := callsFrom_pos recoveryAttempts
  have succ := @callsFrom_succ recoveryAttempts
  unfold writeFailed maxRecoveryAttempts at *
  split_ifs <;> simp only [Control.calls, Point.calls, maxResumeAttempts] <;> omega

/-- Each call of a recovery is one that was left. -/
theorem calls_recovery {transferFailed : Nat → Int → Control} {failed : Int}
    (recovers : point ≠ .transfer) (rc : Int) :
    (proceed transferFailed failed point recoveryAttempts rc).calls + 1 ≤
      point.calls recoveryAttempts := by
  have pos := callsFrom_pos recoveryAttempts
  cases point with
  | transfer => exact absurd rfl recovers
  | resume resumeAttempts =>
      simp only [proceed]
      split_ifs with again
      · have inTime := again.2
        simp only [Control.calls, Point.calls]
        omega
      · simp only [Control.calls, Point.calls]
        omega
      · simp only [Control.calls, Point.calls]
        omega
  | _ =>
      simp only [proceed]
      try split_ifs
      all_goals
        simp only [Control.calls, Point.calls]
        omega

/-- So is a transfer; one that fails may add to those that are left. -/
theorem calls_proceed {transferFailed : Nat → Int → Control} {failed : Int}
    {extra : Int → Nat}
    (pays : ∀ pcmRc, (transferFailed recoveryAttempts pcmRc).calls + 1 ≤
      callsFrom recoveryAttempts + extra pcmRc) (rc : Int) :
    (proceed transferFailed failed point recoveryAttempts rc).calls + 1 ≤
      point.calls recoveryAttempts +
        if point.call = .transfer then extra rc else 0 := by
  by_cases transfers : point = .transfer
  · subst transfers
    have pos := callsFrom_pos recoveryAttempts
    have added : (if Point.transfer.call = .transfer then extra rc else 0) =
        extra rc := if_pos rfl
    rw [added]
    simp only [proceed]
    split_ifs
    · exact pays rc
    · simp only [Control.calls, Point.calls]
      omega
  · exact Nat.le_trans (calls_recovery transfers rc) (Nat.le_add_right _ _)

end Calls

end AudioRecovery

end JetKvm
