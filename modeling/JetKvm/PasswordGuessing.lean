import JetKvm.SharingAuth
import JetKvm.SlidingWindow

/-!
# Guessing the password from one address

The endpoints that need no admin token are called one at a time from one
client address.  A wrong guess is a failed comparison with the hash of the
password of the device.  Beside the state of the server a run keeps what its
answers say: the time of every wrong guess, the failures of the present window,
and which guesses are among them.
-/

namespace JetKvm

namespace PasswordGuessing

open LabelledRuns RateLimit LocalAuth SlidingWindow

inductive Request where
  | login (body : Option String)
  | shareLogin (body : Option String)
  | setup (body : Option SetupRequest)
  | developer (devModeState : Except String Bool) (basicAuth : Option String)

/-- The handlers of the public endpoints.  The developer routes behind their
middleware leave the state alone. -/
def handle (server : Server) (call : Call) : Request → Server × Response
  | .login body => handleLogin server call body
  | .shareLogin body => handleSharingLogin server call body
  | .setup body => handleSetup server call body
  | .developer devModeState basicAuth =>
      match basicAuthProtectedMiddleware server call true devModeState
        basicAuth with
      | some response => (server, response)
      | none => (server, { status := 200, message := "" })

/-- The answer to a wrong guess, of both endpoints that compare with
`config.HashedPassword`. -/
def invalidPassword : Response :=
  { status := 401, message := "Invalid password" }

/-- A guess counts among the failures of the window. -/
structure Guess where
  time : Nat
  counted : Bool
  deriving DecidableEq, Repr

def Guess.forget (guess : Guess) : Guess :=
  { guess with counted := false }

structure State where
  server : Server
  now : Nat := 0
  window : Option Window := none
  guesses : List Guess := []

namespace State

def entry (state : State) (ip : String) : Option Entry :=
  state.server.passwordRateLimiter.entries ip

def times (state : State) : List Nat :=
  state.guesses.map Guess.time

/-- The wrong guesses that are not among the failures of the window. -/
def forgottenTimes (state : State) : List Nat :=
  (state.guesses.filter fun guess => !guess.counted).map Guess.time

def countedTimes (state : State) : List Nat :=
  (state.guesses.filter Guess.counted).map Guess.time

end State

/-- How an attempt ended -/
inductive Attempt where
  | ignored
  | failed
  | succeeded
  deriving DecidableEq, Repr

/-- The answers of `handleSetup` to a failed attempt -/
def setupFailures : List String :=
  ["Invalid request body", "Invalid localAuthMode",
    "Password is required for password mode",
    "Password must be at least 8 characters"]

/-- What the answer to a request says of the attempt.  A login that could not be
saved succeeded, and the developer routes count nothing. -/
def Request.attempt (response : Response) : Request → Attempt
  | .developer .. => .ignored
  | .setup _ =>
      if response.message ∈ setupFailures then .failed else .ignored
  | _ =>
      if response.status = 401 then .failed
      else if response.status = 200 ∨ response.status = 500 then .succeeded
      else .ignored

def Request.isLogin : Request → Bool
  | .login _ => true
  | _ => false

/-- A success forgets the failures, and so does a failure after the end of the
window. -/
def State.note (state : State) (time : Nat) : Attempt → State
  | .ignored => state
  | .succeeded =>
      { state with
        window := none, guesses := state.guesses.map Guess.forget }
  | .failed =>
      match state.window with
      | none => { state with window := some { start := time, last := time } }
      | some window =>
          { state with
            window := some (window.fail time)
            guesses :=
              if window.expired time then state.guesses.map Guess.forget
              else state.guesses }

/-- The sweep forgets the failures of a window that is over. -/
def State.sweep (state : State) (time : Nat) : State :=
  if state.window.any fun window => window.isOver time then
    { state with window := none, guesses := state.guesses.map Guess.forget }
  else state

inductive Label where
  | request (request : Request) (call : Call)
  | cleanup (time : Nat)

/-- A request arrives after the previous one was answered, or the sweep of the
rate limiter comes. -/
def step (ip : String) (state : State) : Label → Option State
  | .request request call =>
      if call.clientIP = ip ∧ state.now ≤ call.checked ∧
          call.checked ≤ call.recorded then
        let (server, response) := handle state.server call request
        let noted := state.note call.recorded (request.attempt response)
        some
          { noted with
            server := server
            now := call.recorded
            guesses :=
              if response = invalidPassword then
                ⟨call.checked, request.isLogin⟩ :: noted.guesses
              else noted.guesses }
      else none
  | .cleanup time =>
      if state.now ≤ time then
        let limiter := state.server.passwordRateLimiter.cleanup time
        some
          { state.sweep time with
            server := { state.server with passwordRateLimiter := limiter }
            now := time }
      else none

/-- The request compares a wrong password with `config.HashedPassword`. -/
def GuessesWrong (server : Server) (call : Call) : Request → Prop
  | .login body =>
      server.config.localAuthMode ≠ "noPassword" ∧
        (server.isAllowed call).1 = true ∧
        ∃ password, body = some password ∧
          call.compareHashAndPassword server.config.hashedPassword
            password = false
  | .developer devModeState basicAuth =>
      devModeState = .ok true ∧ server.config.localAuthMode ≠ "noPassword" ∧
        ∃ password, basicAuth = some password ∧
          call.compareHashAndPassword server.config.hashedPassword
            password = false
  | _ => False

/-- What an attempt does to the rate limiter -/
def Attempt.record (limiter : RateLimiter) (call : Call) :
    Attempt → RateLimiter
  | .ignored => limiter
  | .failed => limiter.recordFailure call.clientIP call.recorded
  | .succeeded => limiter.recordSuccess call.clientIP

/-- The rate limiter is told what the answer says, and the answer tells when
the request is a wrong guess. -/
structure Effect (server : Server) (call : Call) (request : Request)
    (result : Server × Response) : Prop where
  recorded : result.1.passwordRateLimiter =
    (request.attempt result.2).record server.passwordRateLimiter call
  guessed : result.2 = invalidPassword ↔ GuessesWrong server call request

variable {server : Server} {call : Call}

@[simp]
theorem passwordRateLimiter_saveConfig {failed succeeded : Response} :
    (server.saveConfig call failed succeeded).1.passwordRateLimiter =
      server.passwordRateLimiter := by
  unfold Server.saveConfig
  split <;> rfl

theorem saveConfig_ne_invalidPassword {failed succeeded : Response}
    (failure : failed.status = 500) (success : succeeded.status = 200) :
    (server.saveConfig call failed succeeded).2 ≠ invalidPassword := by
  unfold Server.saveConfig
  intro same
  split at same
  · have status : (500 : Nat) = 401 :=
      failure.symm.trans (congrArg Response.status same)
    omega
  · have status : (200 : Nat) = 401 :=
      success.symm.trans (congrArg Response.status same)
    omega

theorem ne_invalidPassword_of_status {response : Response} (status : Nat)
    (has : response.status = status) (other : status ≠ 401) :
    response ≠ invalidPassword :=
  fun same => other (has.symm.trans (congrArg Response.status same))

theorem ne_invalidPassword_of_message {response : Response} (message : String)
    (has : response.message = message) (other : message ≠ "Invalid password") :
    response ≠ invalidPassword :=
  fun same => other (has.symm.trans (congrArg Response.message same))

theorem Effect.of_not_guessed {request : Request} {result : Server × Response}
    (recorded : result.1.passwordRateLimiter =
      (request.attempt result.2).record server.passwordRateLimiter call)
    (answered : result.2 ≠ invalidPassword)
    (notGuessed : ¬ GuessesWrong server call request) :
    Effect server call request result :=
  ⟨recorded, iff_of_false answered notGuessed⟩

/-- A handler that ends by saving its configuration. -/
theorem Effect.of_saveConfig (attempt : Attempt) {request : Request}
    {failed succeeded : Response} {server' : Server}
    (told : server'.passwordRateLimiter =
      attempt.record server.passwordRateLimiter call)
    (failure : failed.status = 500) (success : succeeded.status = 200)
    (attempts : request.attempt failed = attempt ∧
      request.attempt succeeded = attempt)
    (notGuessed : ¬ GuessesWrong server call request) :
    Effect server call request (server'.saveConfig call failed succeeded) := by
  refine .of_not_guessed ?_ (saveConfig_ne_invalidPassword failure success)
    notGuessed
  rw [passwordRateLimiter_saveConfig, told]
  unfold Server.saveConfig
  split
  · rw [attempts.1]
  · rw [attempts.2]

theorem handleLogin_effect (body : Option String) :
    Effect server call (.login body) (handleLogin server call body) := by
  unfold handleLogin
  split_ifs with disabled lockedOut
  · exact .of_not_guessed rfl (ne_invalidPassword_of_status 400 rfl (by decide))
      fun guessed => guessed.1 disabled
  · refine .of_not_guessed rfl
      (ne_invalidPassword_of_status 429 rfl (by decide))
      fun ⟨_, allowed, _⟩ => ?_
    exact Bool.noConfusion (lockedOut.symm.trans allowed)
  · cases body with
    | none =>
        exact .of_not_guessed rfl
          (ne_invalidPassword_of_status 400 rfl (by decide))
          fun ⟨_, _, _, bound, _⟩ => nomatch bound
    | some password =>
        have allowed := Bool.not_eq_false _ |>.mp lockedOut
        dsimp only
        split_ifs with correct
        · refine .of_saveConfig .succeeded rfl rfl rfl ⟨rfl, rfl⟩
            fun ⟨_, _, _, bound, wrong⟩ => ?_
          obtain rfl := Option.some.inj bound
          exact Bool.noConfusion (wrong.symm.trans correct)
        · exact ⟨rfl, iff_of_true rfl ⟨disabled, allowed, password, rfl,
            Bool.not_eq_true _ |>.mp correct⟩⟩

theorem handleSharingLogin_effect (body : Option String) :
    Effect server call (.shareLogin body)
      (handleSharingLogin server call body) := by
  unfold handleSharingLogin checkSharingPassword
  by_cases disabled : server.config.sharingPasswordHash = ""
  · rw [if_pos disabled]
    exact .of_not_guessed rfl (ne_invalidPassword_of_status 403 rfl (by decide))
      not_false
  rw [if_neg disabled]
  by_cases lockedOut : (server.isAllowed call).1 = false
  · rw [if_pos lockedOut]
    exact .of_not_guessed rfl (ne_invalidPassword_of_status 429 rfl (by decide))
      not_false
  · rw [if_neg lockedOut]
    cases body with
    | none =>
        exact .of_not_guessed rfl
          (ne_invalidPassword_of_status 400 rfl (by decide)) not_false
    | some password =>
        cases compared : call.compareHashAndPassword
          server.config.sharingPasswordHash password with
        | true =>
          simp only [compared, if_true]
          exact .of_not_guessed rfl
            (ne_invalidPassword_of_status 200 rfl (by decide)) not_false
        | false =>
          simp only [compared, Bool.false_eq_true, if_false]
          exact .of_not_guessed rfl
            (ne_invalidPassword_of_message "Invalid sharing password" rfl
              (by decide)) not_false

theorem handleSetup_effect (body : Option SetupRequest) :
    Effect server call (.setup body) (handleSetup server call body) := by
  have of_status {request : Request} {result : Server × Response} (status : Nat)
      (recorded : result.1.passwordRateLimiter =
        (request.attempt result.2).record server.passwordRateLimiter call)
      (has : result.2.status = status) (other : status ≠ 401)
      (notGuessed : ¬ GuessesWrong server call request) :
      Effect server call request result :=
    .of_not_guessed recorded (ne_invalidPassword_of_status status has other)
      notGuessed
  unfold handleSetup
  split_ifs with alreadySet lockedOut
  · exact of_status 400 rfl rfl (by decide) not_false
  · exact of_status 429 rfl rfl (by decide) not_false
  · cases body with
    | none => exact of_status 400 rfl rfl (by decide) not_false
    | some setup =>
        dsimp only
        split_ifs with unknown passwordMode isEmpty short long
        · exact of_status 400 rfl rfl (by decide) not_false
        · exact of_status 400 rfl rfl (by decide) not_false
        · exact of_status 400 rfl rfl (by decide) not_false
        · exact of_status 400 rfl rfl (by decide) not_false
        · cases call.generateFromPassword with
          | error err => exact of_status 500 rfl rfl (by decide) not_false
          | ok hash =>
              exact .of_saveConfig .ignored rfl rfl rfl ⟨rfl, rfl⟩
                not_false
        · exact .of_saveConfig .ignored rfl rfl rfl ⟨rfl, rfl⟩
            not_false

theorem basicAuth_effect (devModeState : Except String Bool)
    (basicAuth : Option String) :
    Effect server call (.developer devModeState basicAuth)
      (handle server call (.developer devModeState basicAuth)) := by
  have passes : (handle server call (.developer devModeState
      basicAuth)).1.passwordRateLimiter = server.passwordRateLimiter := by
    unfold handle
    dsimp only
    split <;> rfl
  refine ⟨passes, ?_⟩
  cases devModeState with
  | error err =>
      exact iff_of_false (ne_invalidPassword_of_status 500 rfl (by decide))
        fun ⟨enabled, _⟩ => nomatch enabled
  | ok enabled =>
      cases enabled with
      | false =>
          exact iff_of_false
            (ne_invalidPassword_of_message "Developer mode is not enabled" rfl
              (by decide))
            fun ⟨enabled, _⟩ => nomatch enabled
      | true =>
          unfold handle basicAuthProtectedMiddleware
          by_cases disabled : server.config.localAuthMode = "noPassword"
          · simp only [disabled, if_true]
            exact iff_of_false (ne_invalidPassword_of_status 403 rfl (by decide))
              fun guessed => guessed.2.1 disabled
          · cases basicAuth with
            | none =>
                simp only [disabled, if_true, if_false]
                exact iff_of_false
                  (ne_invalidPassword_of_message "Basic auth is required" rfl
                    (by decide))
                  fun ⟨_, _, _, given, _⟩ => nomatch given
            | some password =>
                cases compared : call.compareHashAndPassword
                  server.config.hashedPassword password with
                | true =>
                    simp only [disabled, compared, if_true, if_false]
                    refine iff_of_false
                      (ne_invalidPassword_of_status 200 rfl (by decide))
                      fun ⟨_, _, _, given, wrong⟩ => ?_
                    obtain rfl := Option.some.inj given
                    exact Bool.noConfusion (wrong.symm.trans compared)
                | false =>
                    simp only [disabled, compared, if_true, if_false]
                    exact iff_of_true rfl ⟨rfl, disabled, password, rfl, compared⟩

theorem effect_of_handle (server : Server) (call : Call) (request : Request) :
    Effect server call request (handle server call request) := by
  cases request with
  | login body => exact handleLogin_effect body
  | shareLogin body => exact handleSharingLogin_effect body
  | setup body => exact handleSetup_effect body
  | developer devModeState basicAuth =>
      exact basicAuth_effect devModeState basicAuth

/-- A wrong guess is a failed attempt if it is a login. -/
theorem attempt_of_guessesWrong {request : Request}
    (guessed : GuessesWrong server call request) :
    request.attempt invalidPassword =
      if request.isLogin then .failed else .ignored := by
  cases request with
  | login body => rfl
  | shareLogin body => exact guessed.elim
  | setup body => exact guessed.elim
  | developer devModeState basicAuth => rfl

/-! ## The entry of the address -/

/-- The guesses that are counted are among the failures of the window. -/
def Counts (window : Option Window) (counted : List Nat) : Prop :=
  match window with
  | none => counted = []
  | some window =>
      counted.length ≤ window.failures ∧ ∀ time ∈ counted, time ≤ window.last

structure State.Invariant (ip : String) (state : State) : Prop where
  past : ∀ time ∈ state.times, time ≤ state.now
  entry : state.entry ip = state.window.map Window.entry
  counts : Counts state.window state.countedTimes

/-- While the limiter lets an attempt through, fewer guesses are recent than
it allows. -/
theorem Counts.length_recent_lt {window : Option Window} {counted : List Nat}
    {now : Nat} (counts : Counts window counted)
    (unlocked : ∀ current, window = some current →
      current.entry.locked now = false) :
    (recent baseWindow now counted).length < maxAttempts := by
  cases window with
  | none =>
      have none : counted = [] := counts
      rw [none, recent_nil]
      decide
  | some window =>
      obtain ⟨fewer, before⟩ := counts
      by_cases full : maxAttempts ≤ window.failures
      · have expired : window.last + getWindowDuration window.level ≤ now := by
          have notLocked := unlocked window rfl
          simpa [Entry.locked, Window.entry, Window.lockedUntil, full]
            using notLocked
        have length := baseWindow_le_getWindowDuration window.level
        have noneRecent : recent baseWindow now counted = [] := by
          refine recent_eq_nil_of_old fun time listed => ?_
          have early := before time listed
          omega
        rw [noneRecent]
        decide
      · have shorter : (recent baseWindow now counted).length ≤ counted.length :=
          length_recent_le
        omega

section Guesses

variable {guesses : List Guess}

theorem times_forget :
    (guesses.map Guess.forget).map Guess.time = guesses.map Guess.time := by
  rw [List.map_map]
  rfl

theorem counted_forget :
    (guesses.map Guess.forget).filter Guess.counted = [] := by
  simp [List.filter_map, Function.comp_def, Guess.forget]

/-- The wrong guesses of a window are those among its failures and the others. -/
theorem length_recent_times (width now : Nat) :
    (recent width now (guesses.map Guess.time)).length =
      (recent width now ((guesses.filter Guess.counted).map Guess.time)).length +
      (recent width now ((guesses.filter fun guess =>
        !guess.counted).map Guess.time)).length := by
  induction guesses with
  | nil => rfl
  | cons guess guesses ih =>
      obtain ⟨time, counted⟩ := guess
      cases counted <;>
        by_cases inside : time ≤ now ∧ now < time + width <;>
        simp only [recent, List.map_cons, List.filter_cons, inside, and_self,
          Bool.not_true, Bool.not_false, Bool.false_eq_true, decide_true,
          decide_false, if_true, if_false, List.length_cons] at ih ⊢ <;>
        omega

end Guesses

/-! ## The bound on wrong guesses -/

/-- At most five wrong guesses in any fifteen minutes. -/
def State.GuessesBounded (state : State) : Prop :=
  AtMost maxAttempts baseWindow state.times

/-- A wrong guess goes through `handleLogin`, and every other recent one is
still among the failures of the window. -/
def GuessesAccounted (state : State) : Label → Prop
  | .request request call =>
      GuessesWrong state.server call request →
        request.isLogin = true ∧
          recent baseWindow call.checked state.forgottenTimes = []
  | .cleanup _ => True

variable {ip : String} {state next : State} {label : Label}

theorem State.Invariant.initial (server : Server)
    (untried : server.passwordRateLimiter.entries ip = none) :
    State.Invariant ip { server := server } where
  past := nofun
  entry := untried
  counts := rfl

/-- What is noted of an attempt keeps the times. -/
theorem times_note (time : Nat) (attempt : Attempt) :
    (state.note time attempt).times = state.times := by
  unfold State.note
  split
  · rfl
  · exact times_forget
  · split
    · rfl
    · simp only [State.times]
      split
      · exact times_forget
      · rfl

/-- The window goes on as the entry of the address does. -/
theorem entry_note {call : Call} (attempt : Attempt)
    (entry : state.entry call.clientIP = state.window.map Window.entry) :
    (attempt.record state.server.passwordRateLimiter call).entries call.clientIP =
      (state.note call.recorded attempt).window.map Window.entry := by
  unfold State.entry at entry
  cases attempt with
  | ignored => exact entry
  | succeeded => exact RateLimiter.entries_recordSuccess
  | failed =>
      refine RateLimiter.entries_recordFailure.trans ?_
      rw [entry]
      unfold State.note
      cases state.window with
      | none => rfl
      | some window =>
          exact congrArg some (window.recordFailure_entry call.recorded)

/-- A failure may itself be a wrong guess, and both are counted. -/
theorem Counts.fail {window : Option Window} {guesses : List Guess}
    {new : List Nat} {time : Nat}
    (counts : Counts window ((guesses.filter Guess.counted).map Guess.time))
    (past : ∀ guess ∈ guesses, guess.time ≤ time) (few : new.length ≤ 1)
    (newPast : ∀ other ∈ new, other ≤ time) (server : Server) (now : Nat) :
    let noted := State.note ⟨server, now, window, guesses⟩ time .failed
    Counts noted.window (new ++ noted.countedTimes) := by
  cases window with
  | none =>
      have none : (guesses.filter Guess.counted).map Guess.time = [] := counts
      simp only [State.note, State.countedTimes, none, List.append_nil]
      exact ⟨few, newPast⟩
  | some window =>
      simp only [State.note, State.countedTimes, Window.fail]
      split
      · rw [counted_forget, List.map_nil, List.append_nil]
        exact ⟨few, newPast⟩
      · refine ⟨?_, fun other listed => ?_⟩
        · have fewer := counts.1
          rw [List.length_append]
          dsimp only
          omega
        · rcases List.mem_append.mp listed with isNew | isOld
          · exact newPast other isNew
          · obtain ⟨guess, counted, rfl⟩ := List.mem_map.mp isOld
            exact past guess (List.mem_of_mem_filter counted)

theorem step_request {request : Request} {call : Call}
    (taken : step ip state (.request request call) = some next) :
    (call.clientIP = ip ∧ state.now ≤ call.checked ∧
      call.checked ≤ call.recorded) ∧
    let result := handle state.server call request
    let noted := state.note call.recorded (request.attempt result.2)
    next =
      { noted with
        server := result.1
        now := call.recorded
        guesses :=
          if result.2 = invalidPassword then
            ⟨call.checked, request.isLogin⟩ :: noted.guesses
          else noted.guesses } := by
  simp only [step] at taken
  split at taken
  case isTrue enabled => exact ⟨enabled, (Option.some.inj taken).symm⟩
  case isFalse => cases taken

/-- A step adds the time of a wrong guess, and of nothing else. -/
theorem times_request {request : Request} {call : Call}
    (taken : step ip state (.request request call) = some next) :
    (GuessesWrong state.server call request →
      next.times = call.checked :: state.times) ∧
    (¬ GuessesWrong state.server call request → next.times = state.times) := by
  obtain ⟨-, rfl⟩ := step_request taken
  have guessed := (effect_of_handle state.server call request).guessed
  have noted : ∀ attempt, (state.note call.recorded attempt).guesses.map
      Guess.time = state.guesses.map Guess.time :=
    times_note call.recorded
  constructor
  · intro wrong
    simp only [State.times, if_pos (guessed.mpr wrong), List.map_cons, noted]
  · intro notWrong
    simp only [State.times, if_neg (mt guessed.mp notWrong), noted]

theorem State.Invariant.request {request : Request} {call : Call}
    (invariant : state.Invariant ip)
    (taken : step ip state (.request request call) = some next) :
    next.Invariant ip := by
  have times := times_request taken
  have effect := effect_of_handle state.server call request
  obtain ⟨⟨rfl, arrived, ordered⟩, same⟩ := step_request taken
  have reached : next.now = call.recorded := by rw [same]
  refine ⟨fun time listed => ?_, ?_, ?_⟩
  · have before : time = call.checked ∨ time ∈ state.times := by
      by_cases wrong : GuessesWrong state.server call request
      · rw [times.1 wrong] at listed
        exact List.mem_cons.mp listed
      · rw [times.2 wrong] at listed
        exact .inr listed
    rcases before with rfl | earlier
    · omega
    · have past := invariant.past time earlier
      omega
  · rw [same]
    refine (congrArg (fun limiter => limiter.entries call.clientIP)
      effect.recorded).trans ?_
    exact entry_note _ invariant.entry
  · rw [same]
    have past : ∀ guess ∈ state.guesses, guess.time ≤ call.recorded := by
      intro guess listed
      have before := invariant.past guess.time (List.mem_map_of_mem listed)
      omega
    unfold State.countedTimes
    dsimp only
    split
    case isTrue answered =>
      -- a wrong guess counts as a failure if it is a login
      have attempt := attempt_of_guessesWrong (effect.guessed.mp answered)
      rw [answered, attempt]
      cases request.isLogin with
      | false => exact invariant.counts
      | true =>
          have counted := @Counts.fail _ _ [call.checked] _ invariant.counts past
            (Nat.le_refl 1) (by simpa using ordered) state.server state.now
          exact counted
    case isFalse =>
      cases request.attempt (handle state.server call request).2 with
      | ignored => exact invariant.counts
      | succeeded => exact congrArg (List.map Guess.time) counted_forget
      | failed =>
          exact @Counts.fail _ _ [] _ invariant.counts past (Nat.zero_le 1)
            nofun state.server state.now

theorem State.Invariant.cleanup {time : Nat} (invariant : state.Invariant ip)
    (taken : step ip state (.cleanup time) = some next) :
    next.Invariant ip ∧ next.times = state.times := by
  simp only [step] at taken
  split at taken
  case isFalse => cases taken
  case isTrue later =>
    obtain rfl := Option.some.inj taken
    have swept : (state.server.passwordRateLimiter.cleanup time).entries ip =
        (state.entry ip).filter fun entry => !entry.stale time := rfl
    have times : (state.sweep time).times = state.times := by
      unfold State.sweep
      split
      · exact times_forget
      · rfl
    refine ⟨⟨?_, ?_, ?_⟩, times⟩
    · intro guess listed
      change guess ∈ (state.sweep time).times at listed
      rw [times] at listed
      exact Nat.le_trans (invariant.past guess listed) later
    · refine swept.trans ?_
      rw [invariant.entry]
      cases found : state.window with
      | none => simp [State.sweep, found]
      | some window =>
          cases ended : window.isOver time <;>
            simp [State.sweep, found, ended, window.stale_entry]
    · change Counts (state.sweep time).window (state.sweep time).countedTimes
      unfold State.sweep
      split
      · exact congrArg (List.map Guess.time) counted_forget
      · exact invariant.counts

theorem State.Invariant.step (invariant : state.Invariant ip)
    (taken : PasswordGuessing.step ip state label = some next) :
    next.Invariant ip := by
  cases label with
  | request request call => exact invariant.request taken
  | cleanup time => exact (invariant.cleanup taken).1

/-- A guess that is accounted for keeps the bound. -/
theorem guessesBounded_step (invariant : state.Invariant ip)
    (bounded : state.GuessesBounded)
    (accounted : GuessesAccounted state label)
    (taken : step ip state label = some next) : next.GuessesBounded := by
  unfold State.GuessesBounded
  cases label with
  | cleanup time =>
      rw [(invariant.cleanup taken).2]
      exact bounded
  | request request call =>
      have times := times_request taken
      obtain ⟨⟨rfl, arrived, ordered⟩, -⟩ := step_request taken
      by_cases wrong : GuessesWrong state.server call request
      · obtain ⟨isLogin, noneForgotten⟩ := accounted wrong
        have past : ∀ time ∈ state.times, time ≤ call.checked :=
          fun time listed => Nat.le_trans (invariant.past time listed) arrived
        rw [times.1 wrong, atMost_cons_iff baseWindow_pos past bounded]
        -- every recent guess is counted, and the limiter is not locked
        have unlocked : ∀ current, state.window = some current →
            current.entry.locked call.checked = false := by
          intro current found
          have allowed : (state.server.isAllowed call).1 = true := by
            cases request with
            | login body => exact wrong.2.1
            | _ => cases isLogin
          have notLocked := RateLimiter.isAllowed_iff.mp allowed
          by_contra locked
          refine notLocked ⟨current.entry, ?_, Bool.not_eq_false _ |>.mp locked⟩
          have entry := invariant.entry
          rw [found] at entry
          exact entry
        have few := invariant.counts.length_recent_lt unlocked
        have split := @length_recent_times state.guesses baseWindow call.checked
        have forgotten : (recent baseWindow call.checked
            state.forgottenTimes).length = 0 := by rw [noneForgotten]; rfl
        simp only [State.times, State.countedTimes,
          State.forgottenTimes] at few split forgotten ⊢
        omega
      · rw [times.2 wrong]
        exact bounded

/-- A server that has no failure of the address on record. -/
def untried (server : Server) (ip : String) : Server :=
  { server with
    passwordRateLimiter := server.passwordRateLimiter.recordSuccess ip }

/-- From a server without a recorded failure of the address, a run has at most
five wrong guesses in any fifteen minutes if they are all accounted for. -/
theorem guessesBounded_of_guessesAccounted (ip : String) (server : Server)
    (labels : List Label)
    (accounted : AllSteps (step ip) GuessesAccounted
      { server := untried server ip } labels) :
    AllStates (step ip) State.GuessesBounded { server := untried server ip }
      labels := by
  have initial : State.Invariant ip { server := untried server ip } :=
    .initial _ RateLimiter.entries_recordSuccess
  have everywhere := allStates_of_allSteps
    (fun {state next label} (holds : state.Invariant ip ∧ state.GuessesBounded)
        here taken =>
      And.intro (holds.1.step taken)
        (guessesBounded_step holds.1 holds.2 here taken))
    ⟨initial, atMost_nil⟩ accounted
  exact everywhere.mono fun _ holds => holds.2

/-- One request of a client that knows the sharing password, answered at once. -/
def guestCall : Call where
  clientIP := "192.168.1.7"
  checked := 1
  recorded := 1
  compareHashAndPassword := fun hash password => hash == password
  generateFromPassword := .error "not reached"
  newUUID := "8b3e4a0c"
  saveConfig := .ok ()

def fourGuesses : List Label :=
  List.replicate 4 (.request (.login (some "guess")) guestCall)

/-- A device with a password, and one for guests -/
def lockedDevice : Server :=
  untried
    { config :=
        { localAuthMode := "password"
          hashedPassword := "secret"
          sharingPasswordHash := "guest" } } "192.168.1.7"

/-- Of six guesses in a row the last is refused. -/
theorem guessesBounded_six_guesses :
    AllStates (step "192.168.1.7") State.GuessesBounded
      { server := untried lockedDevice "192.168.1.7" }
      (fourGuesses ++ List.replicate 2
        (.request (.login (some "guess")) guestCall)) := by
  refine guessesBounded_of_guessesAccounted _ _ _ ?_
  refine allSteps_cons_of_step rfl (fun _ => ⟨rfl, rfl⟩) ?_
  refine allSteps_cons_of_step rfl (fun _ => ⟨rfl, rfl⟩) ?_
  refine allSteps_cons_of_step rfl (fun _ => ⟨rfl, rfl⟩) ?_
  refine allSteps_cons_of_step rfl (fun _ => ⟨rfl, rfl⟩) ?_
  refine allSteps_cons_of_step rfl (fun _ => ⟨rfl, rfl⟩) ?_
  exact allSteps_cons_of_step rfl (fun _ => ⟨rfl, rfl⟩) trivial

def guessesAroundSharingLogin : List Label :=
  fourGuesses ++ [.request (.shareLogin (some "guest")) guestCall] ++ fourGuesses

/-- A login with the sharing password between the guesses erases the first
four. -/
theorem sharing_login_erases_guesses :
    ¬ AllStates (step "192.168.1.7") State.GuessesBounded
      { server := lockedDevice } guessesAroundSharingLogin := by
  intro bounded
  have last := bounded.last rfl
  exact absurd (last 1) (by decide)

end PasswordGuessing

end JetKvm
