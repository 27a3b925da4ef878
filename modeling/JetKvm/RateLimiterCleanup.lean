import JetKvm.LabelledRuns
import JetKvm.PasswordRateLimiter

/-!
# The clean-up of the rate limiter

Two rate limiters get the same calls, and only one of them is swept.  Times do
not run backwards.
-/

namespace JetKvm

namespace RateLimit

namespace Cleanup

open LabelledRuns

inductive Call where
  | isAllowed (ip : String) (now : Nat)
  | recordFailure (ip : String) (now : Nat)
  | recordSuccess (ip : String) (now : Nat)
  deriving DecidableEq, Repr

def Call.time : Call → Nat
  | .isAllowed _ now | .recordFailure _ now | .recordSuccess _ now => now

/-- What a call leaves of the limiter -/
def Call.perform (limiter : RateLimiter) : Call → RateLimiter
  | .isAllowed _ _ => limiter
  | .recordFailure ip now => limiter.recordFailure ip now
  | .recordSuccess ip _ => limiter.recordSuccess ip

inductive Label where
  | call (call : Call)
  | cleanup (now : Nat)
  deriving DecidableEq, Repr

def Label.time : Label → Nat
  | .call made => made.time
  | .cleanup now => now

structure State where
  now : Nat := 0
  swept : RateLimiter := {}
  unswept : RateLimiter := {}

def State.next (state : State) : Label → State
  | .call call =>
      ⟨call.time, call.perform state.swept, call.perform state.unswept⟩
  | .cleanup now => ⟨now, state.swept.cleanup now, state.unswept⟩

def step (state : State) (label : Label) : Option State :=
  if state.now ≤ label.time then some (state.next label) else none

/-- `IsAllowed` answers the same with and without the sweeps. -/
def SameAnswer (state : State) (label : Label) : Prop :=
  ∀ ip now, label = .call (.isAllowed ip now) →
    state.swept.isAllowed ip now = state.unswept.isAllowed ip now

/-- Whatever calls follow, they are answered the same. -/
def Transparent (state : State) : Prop :=
  ∀ calls : List Call, AllSteps step SameAnswer state (calls.map .call)

/-- A failure in a new window raises the backoff level of the entry. -/
def Escalates (entry : Entry) : Prop :=
  0 < entry.backoffLevel ∨ maxAttempts ≤ entry.attempts

/-- No sweep deletes an entry whose backoff level the next failure would
raise. -/
def ForgetsNothing (state : State) (label : Label) : Prop :=
  ∀ now, label = .cleanup now →
    ∀ ip entry, state.swept.entries ip = some entry →
      entry.stale now = true → ¬ Escalates entry

/-- The entries are the same but for stale ones that have been deleted. -/
def Related (state : State) : Prop :=
  ∀ ip, state.swept.entries ip = state.unswept.entries ip ∨
    state.swept.entries ip = none ∧
      ∃ entry, state.unswept.entries ip = some entry ∧
        entry.stale state.now = true ∧ ¬ Escalates entry

/-! ### Entries -/

section Entries

variable {entry : Entry} {now later : Nat}

theorem stale_of_le (stale : entry.stale now = true) (le : now ≤ later) :
    entry.stale later = true := by
  obtain ⟨unlocked, expired⟩ := Bool.and_eq_true_iff.mp stale
  refine Bool.and_eq_true_iff.mpr ⟨?_, ?_⟩
  · cases ending : entry.lockedUntil with
    | none => simp [Entry.unlocked, ending]
    | some lockedUntil =>
        simp only [Entry.unlocked, ending, decide_eq_true_eq] at unlocked ⊢
        omega
  · simp only [Entry.expired, decide_eq_true_eq] at expired ⊢
    omega

theorem not_locked_of_stale (stale : entry.stale now = true) :
    entry.locked now = false := by
  have unlocked := (Bool.and_eq_true_iff.mp stale).1
  cases ending : entry.lockedUntil with
  | none => simp [Entry.locked, ending]
  | some lockedUntil =>
      simp only [Entry.unlocked, Entry.locked, ending, decide_eq_true_eq,
        decide_eq_false_iff_not] at unlocked ⊢
      omega

/-- A failure treats a stale entry that does not escalate like none. -/
theorem recordFailure_of_stale (stale : entry.stale now = true)
    (calm : ¬ Escalates entry) :
    entry.recordFailure now = { attempts := 1, windowStart := now } := by
  have expired := (Bool.and_eq_true_iff.mp stale).2
  have level : entry.backoffLevel = 0 := by
    unfold Escalates at calm
    omega
  rw [Entry.recordFailure, if_pos expired, Entry.restart]
  unfold Escalates at calm
  rw [if_neg calm, level]

/-- A failure at the start of the window is counted. -/
theorem recordFailure_of_windowStart (start : entry.windowStart = now) :
    entry.recordFailure now = entry.count now := by
  have fresh : entry.expired now = false := by
    simp [Entry.expired, start]
  rw [Entry.recordFailure, fresh]
  rfl

/-- Four more failures at the start of a window lock the entry. -/
theorem count_four (backoffLevel now : Nat) :
    ((((⟨1, now, backoffLevel, none⟩ : Entry).recordFailure now).recordFailure
      now).recordFailure now).recordFailure now =
      ⟨5, now, backoffLevel, some (now + getWindowDuration backoffLevel)⟩ := by
  have counted : ∀ attempts : Nat,
      (⟨attempts, now, backoffLevel, none⟩ : Entry).recordFailure now =
        (⟨attempts, now, backoffLevel, none⟩ : Entry).count now :=
    fun _ => recordFailure_of_windowStart rfl
  rw [counted 1]
  change (((⟨2, now, backoffLevel, none⟩ : Entry).recordFailure
    now).recordFailure now).recordFailure now = _
  rw [counted 2]
  change ((⟨3, now, backoffLevel, none⟩ : Entry).recordFailure
    now).recordFailure now = _
  rw [counted 3]
  change (⟨4, now, backoffLevel, none⟩ : Entry).recordFailure now = _
  rw [counted 4]
  rfl

theorem restart_of_escalates (stale : entry.stale now = true)
    (escalates : Escalates entry) :
    ∃ backoffLevel, 0 < backoffLevel ∧
      entry.recordFailure now = ⟨1, now, backoffLevel, none⟩ := by
  have expired := (Bool.and_eq_true_iff.mp stale).2
  refine ⟨min (entry.backoffLevel + 1) maxBackoffLevel, ?_, ?_⟩
  · exact Nat.lt_min.mpr ⟨Nat.succ_pos _, by decide⟩
  · rw [Entry.recordFailure, if_pos expired, Entry.restart]
    unfold Escalates at escalates
    rw [if_pos escalates]

def fiveFailures (limiter : RateLimiter) (ip : String) (now : Nat) :
    RateLimiter :=
  ((((limiter.recordFailure ip now).recordFailure ip now).recordFailure ip
    now).recordFailure ip now).recordFailure ip now

/-- Five failures at one time, the first of which starts a window, lock the
address out for the duration of the window. -/
theorem isAllowed_of_failures {limiter : RateLimiter} {ip : String}
    {backoffLevel : Nat}
    (starts : (limiter.recordFailure ip now).entries ip =
      some ⟨1, now, backoffLevel, none⟩) :
    ((fiveFailures limiter ip now).isAllowed ip later).1 =
      decide (now + getWindowDuration backoffLevel ≤ later) := by
  unfold fiveFailures
  generalize limiter.recordFailure ip now = started at starts
  simp only [RateLimiter.isAllowed, RateLimiter.entries_recordFailure, starts,
    count_four, Entry.locked]
  by_cases ended : now + getWindowDuration backoffLevel ≤ later
  · simp [ended, Nat.not_lt.mpr ended]
  · simp [ended, Nat.lt_of_not_le ended]

theorem baseWindow_lt_getWindowDuration {backoffLevel : Nat}
    (raised : 0 < backoffLevel) :
    baseWindow < getWindowDuration backoffLevel := by
  have level : 0 < min backoffLevel maxBackoffLevel :=
    Nat.lt_min.mpr ⟨raised, by decide⟩
  have doubled : 1 < 2 ^ min backoffLevel maxBackoffLevel :=
    Nat.one_lt_two_pow (Nat.ne_of_gt level)
  exact (Nat.lt_mul_iff_one_lt_right baseWindow_pos).mpr doubled

end Entries

/-! ### The steps -/

section Steps

variable {state next : State} {label : Label}

theorem step_call {call : Call} (later : state.now ≤ call.time) :
    step state (.call call) = some (state.next (.call call)) :=
  if_pos later

theorem Transparent.fiveFailures (transparent : Transparent state) (ip : String)
    (wait : Nat) :
    (Cleanup.fiveFailures state.swept ip state.now).isAllowed ip
        (state.now + wait) =
      (Cleanup.fiveFailures state.unswept ip state.now).isAllowed ip
        (state.now + wait) := by
  have later := Nat.le_refl state.now
  have run := transparent
    (List.replicate 5 (.recordFailure ip state.now) ++
      [.isAllowed ip (state.now + wait)])
  have first := (run _ (step_call later)).2
  have second := (first _ (step_call later)).2
  have third := (second _ (step_call later)).2
  have fourth := (third _ (step_call later)).2
  have fifth := (fourth _ (step_call later)).2
  exact (fifth _ (step_call (Nat.le_add_right ..))).1 ip _ rfl

namespace Related

theorem isAllowed (related : Related state) {ip : String} {now : Nat}
    (later : state.now ≤ now) :
    state.swept.isAllowed ip now = state.unswept.isAllowed ip now := by
  rcases related ip with same | ⟨deleted, entry, found, stale, -⟩
  · simp only [RateLimiter.isAllowed, same]
  · simp [RateLimiter.isAllowed, deleted, found,
      not_locked_of_stale (stale_of_le stale later)]

/-- A call leaves the limiters related. -/
theorem call (related : Related state) {call : Call}
    (later : state.now ≤ call.time) :
    Related (state.next (.call call)) := by
  intro other
  have before : state.swept.entries other = state.unswept.entries other ∨
      state.swept.entries other = none ∧
        ∃ entry, state.unswept.entries other = some entry ∧
          entry.stale call.time = true ∧ ¬ Escalates entry := by
    refine (related other).imp_right ?_
    rintro ⟨deleted, entry, found, stale, calm⟩
    exact ⟨deleted, entry, found, stale_of_le stale later, calm⟩
  cases call with
  | isAllowed ip now => exact before
  | recordFailure ip now =>
      by_cases same : other = ip
      · subst same
        refine .inl ?_
        simp only [State.next, Call.perform, RateLimiter.entries_recordFailure]
        rcases before with equal | ⟨deleted, entry, found, stale, calm⟩
        · rw [equal]
        · have fresh : entry.recordFailure now =
              { attempts := 1, windowStart := now } :=
            recordFailure_of_stale stale calm
          simp only [deleted, found, fresh]
      · simpa [State.next, Call.perform, RateLimiter.recordFailure,
          Function.update_of_ne same] using before
  | recordSuccess ip now =>
      by_cases same : other = ip
      · subst same
        exact .inl (RateLimiter.entries_recordSuccess.trans
          RateLimiter.entries_recordSuccess.symm)
      · simpa [State.next, Call.perform, RateLimiter.recordSuccess,
          Function.update_of_ne same] using before

theorem cleanup (related : Related state) {now : Nat}
    (later : state.now ≤ now) (forgets : ForgetsNothing state (.cleanup now)) :
    Related (state.next (.cleanup now)) := by
  intro ip
  rcases related ip with same | ⟨deleted, entry, found, stale, calm⟩
  · cases found : state.swept.entries ip with
    | none =>
        refine .inl ?_
        simp only [State.next, RateLimiter.cleanup, ← same, found,
          Option.filter_none]
    | some entry =>
        have unswept := same.symm.trans found
        cases stale : entry.stale now with
        | true =>
            refine .inr ⟨?_, entry, unswept, stale,
              forgets now rfl ip entry found stale⟩
            simp [State.next, RateLimiter.cleanup, found, stale]
        | false =>
            refine .inl ?_
            simp [State.next, RateLimiter.cleanup, found, stale, unswept]
  · refine .inr ⟨?_, entry, found, stale_of_le stale later, calm⟩
    simp only [State.next, RateLimiter.cleanup, deleted, Option.filter_none]

theorem step (related : Related state) (forgets : ForgetsNothing state label)
    (taken : Cleanup.step state label = some next) : Related next := by
  simp only [Cleanup.step, Option.ite_none_right_eq_some] at taken
  obtain ⟨later, same⟩ := taken
  obtain rfl := Option.some.inj same
  cases label with
  | call call => exact related.call later
  | cleanup now => exact related.cleanup later forgets

theorem transparent (related : Related state) : Transparent state := by
  intro calls
  induction calls generalizing state with
  | nil => trivial
  | cons call calls ih =>
      intro next taken
      simp only [Cleanup.step, Option.ite_none_right_eq_some] at taken
      obtain ⟨later, same⟩ := taken
      obtain rfl := Option.some.inj same
      refine ⟨?_, ih (related.call later)⟩
      rintro ip now isCall
      cases isCall
      exact related.isAllowed later

/-- Five failures right after the sweep lock the address out for longer if it
was not swept. -/
theorem forgetsNothing (related : Related state)
    (taken : Cleanup.step state label = some next)
    (transparent : Transparent next) : ForgetsNothing state label := by
  rintro now rfl ip entry found stale escalates
  simp only [Cleanup.step, Option.ite_none_right_eq_some] at taken
  obtain rfl := Option.some.inj taken.2
  have unswept : state.unswept.entries ip = some entry := by
    rcases related ip with same | ⟨deleted, -⟩
    · exact same.symm.trans found
    · rw [found] at deleted
      cases deleted
  have same :
      (fiveFailures (state.swept.cleanup now) ip now).isAllowed ip
          (now + baseWindow) =
        (fiveFailures state.unswept ip now).isAllowed ip (now + baseWindow) :=
    transparent.fiveFailures ip baseWindow
  -- the address that was swept is the first to be let in again
  obtain ⟨backoffLevel, raised, restarted⟩ :=
    restart_of_escalates stale escalates
  have sweptStarts : ((state.swept.cleanup now).recordFailure ip now).entries
      ip = some ⟨1, now, 0, none⟩ := by
    have deleted : (state.swept.cleanup now).entries ip = none := by
      simp [RateLimiter.cleanup, found, stale]
    simp [deleted]
  have unsweptStarts : (state.unswept.recordFailure ip now).entries ip =
      some ⟨1, now, backoffLevel, none⟩ := by
    simp [unswept, restarted]
  have longer := baseWindow_lt_getWindowDuration raised
  have base : getWindowDuration 0 = baseWindow := by
    simp [getWindowDuration]
  have answers := (isAllowed_of_failures sweptStarts).symm.trans
    ((congrArg Prod.fst same).trans (isAllowed_of_failures unsweptStarts))
  rw [decide_eq_decide] at answers
  omega

end Related

end Steps

/-- The sweeps of a run show in no answer, whatever calls follow, exactly if
none of them deletes an entry whose backoff level the next failure would
raise. -/
theorem transparent_iff_forgetsNothing (labels : List Label) :
    AllStates step Transparent {} labels ↔
      AllSteps step ForgetsNothing {} labels :=
  @allStates_iff_allSteps State Label step Related Transparent ForgetsNothing
    Related.transparent Related.step Related.forgetsNothing {}
    (fun _ => .inl rfl) labels

/-- Five failures lock the address out for 15 minutes; a sweep follows, and then
five failures again. -/
def sweptLockout : List Label :=
  List.replicate 5 (Label.call (.recordFailure "192.168.1.2" 0)) ++
    [Label.cleanup (16 * minute)] ++
    List.replicate 5 (Label.call (.recordFailure "192.168.1.2" (17 * minute))) ++
    [Label.call (.isAllowed "192.168.1.2" (35 * minute))]

theorem sweptLockout_not_sameAnswer :
    ¬ ∀ labels, AllSteps step SameAnswer {} labels := by
  intro everywhere
  have run := everywhere sweptLockout
  have locked := (((((run _ rfl).2 _ rfl).2 _ rfl).2 _ rfl).2 _ rfl).2
  have swept := (locked _ rfl).2
  have again := (((((swept _ rfl).2 _ rfl).2 _ rfl).2 _ rfl).2 _ rfl).2
  have same := (again _ rfl).1 "192.168.1.2" _ rfl
  revert same
  decide

end Cleanup

end RateLimit

end JetKvm
