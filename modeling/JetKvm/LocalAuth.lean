import JetKvm.LabelledRuns
import JetKvm.PasswordRateLimiter
import Mathlib.Tactic.ByContra
import Mathlib.Tactic.SplitIfs

/-!
# Local authentication

Translation of the handlers of `web.go` that set up the device, manage its
password, log in and log out.  A handler is a function of the globals, of the
body of the request (`none` when it does not bind) and of what the calls it
makes return; hashing and saving may fail.
-/

namespace JetKvm

namespace LocalAuth

open LabelledRuns RateLimit

/-- The fields of the configuration that the handlers read. -/
structure Config where
  localAuthMode : String := ""
  hashedPassword : String := ""
  localAuthToken : String := ""
  sharingPasswordHash : String := ""
  deriving DecidableEq, Repr

structure Server where
  config : Config := {}
  passwordRateLimiter : RateLimiter := {}
  sharingAuthToken : String := ""

/-- The client, the clock at the check and at the record of the rate limiter,
and the results of the calls of one request.  A generated hash is not empty. -/
structure Call where
  clientIP : String
  checked : Nat
  recorded : Nat
  compareHashAndPassword : String → String → Bool
  generateFromPassword : Except String { hash : String // hash ≠ "" }
  newUUID : String
  saveConfig : Except String Unit

/-- A JSON response: its status, its message or error, the seconds after which
to retry, and the cookies that were set. -/
structure Response where
  status : Nat
  message : String
  retryAfter : Option Nat := none
  cookies : List (String × String) := []
  deriving DecidableEq, Repr

def Response.Success (response : Response) : Prop :=
  200 ≤ response.status ∧ response.status < 300

def tooManyRequests (retryAfter : Nat) : Response where
  status := 429
  message := "Too many failed attempts. Please try again later."
  retryAfter := some retryAfter

def minPasswordLength : Nat := 8

def maxPasswordLength : Nat := 72

structure SetupRequest where
  localAuthMode : String
  password : String := ""
  deriving DecidableEq, Repr

structure ChangePasswordRequest where
  oldPassword : String
  newPassword : String
  deriving DecidableEq, Repr

namespace Server

def isAllowed (server : Server) (call : Call) : Bool × Nat :=
  server.passwordRateLimiter.isAllowed call.clientIP call.checked

def recordFailure (server : Server) (call : Call) : Server :=
  { server with
    passwordRateLimiter :=
      server.passwordRateLimiter.recordFailure call.clientIP call.recorded }

def recordSuccess (server : Server) (call : Call) : Server :=
  { server with
    passwordRateLimiter :=
      server.passwordRateLimiter.recordSuccess call.clientIP }

def setCredentials (server : Server)
    (localAuthMode hashedPassword localAuthToken : String) : Server :=
  { server with
    config :=
      { server.config with
        localAuthMode := localAuthMode
        hashedPassword := hashedPassword
        localAuthToken := localAuthToken } }

/-- The end of every handler: save the configuration and answer. -/
def saveConfig (server : Server) (call : Call) (failed succeeded : Response) :
    Server × Response :=
  match call.saveConfig with
  | .error _ => (server, failed)
  | .ok () => (server, succeeded)

end Server

def failedToSave : Response :=
  { status := 500, message := "Failed to save configuration" }

def handleLogin (server : Server) (call : Call) (body : Option String) :
    Server × Response :=
  if server.config.localAuthMode = "noPassword" then
    (server, { status := 400, message := "Login is disabled in noPassword mode" })
  else if (server.isAllowed call).1 = false then
    (server, tooManyRequests (server.isAllowed call).2)
  else
    match body with
    | none => (server, { status := 400, message := "Invalid request body" })
    | some password =>
        if call.compareHashAndPassword server.config.hashedPassword password then
          (((server.recordSuccess call).setCredentials server.config.localAuthMode
            server.config.hashedPassword call.newUUID)).saveConfig call failedToSave
              { status := 200, message := "Login successful",
                cookies := [("authToken", call.newUUID)] }
        else
          (server.recordFailure call,
            { status := 401, message := "Invalid password" })

def handleLogout (server : Server) (call : Call) : Server × Response :=
  (server.setCredentials server.config.localAuthMode server.config.hashedPassword
    "").saveConfig call failedToSave
      { status := 200, message := "Logout successful",
        cookies := [("authToken", "")] }

def handleCreatePassword (server : Server) (call : Call) (body : Option String) :
    Server × Response :=
  if server.config.hashedPassword ≠ "" then
    (server, { status := 400, message := "Password already set" })
  else if server.config.localAuthMode ≠ "noPassword" then
    (server, { status := 400, message := "Password mode is not enabled" })
  else
    match body with
    | none => (server, { status := 400, message := "Invalid request" })
    | some password =>
        if password = "" then
          (server, { status := 400, message := "Invalid request" })
        else if password.utf8ByteSize < minPasswordLength then
          (server, { status := 400,
                     message := "Password must be at least 8 characters" })
        else if maxPasswordLength < password.utf8ByteSize then
          (server, { status := 400,
                     message := "Password must be at most 72 characters" })
        else
          match call.generateFromPassword with
          | .error _ =>
              (server, { status := 500, message := "Failed to hash password" })
          | .ok hash =>
              (server.setCredentials "password" hash call.newUUID).saveConfig call
                failedToSave
                { status := 201, message := "Password set successfully",
                  cookies := [("authToken", call.newUUID)] }

def handleUpdatePassword (server : Server) (call : Call)
    (body : Option ChangePasswordRequest) : Server × Response :=
  if server.config.hashedPassword = "" then
    (server, { status := 400, message := "Password is not set" })
  else if server.config.localAuthMode ≠ "password" then
    (server, { status := 400, message := "Password mode is not enabled" })
  else
    match body with
    | none => (server, { status := 400, message := "Invalid request" })
    | some request =>
        if request.oldPassword = "" ∨ request.newPassword = "" then
          (server, { status := 400, message := "Invalid request" })
        else if request.newPassword.utf8ByteSize < minPasswordLength then
          (server, { status := 400,
                     message := "Password must be at least 8 characters" })
        else if maxPasswordLength < request.newPassword.utf8ByteSize then
          (server, { status := 400,
                     message := "Password must be at most 72 characters" })
        else if call.compareHashAndPassword server.config.hashedPassword
            request.oldPassword = false then
          (server, { status := 401, message := "Incorrect old password" })
        else
          match call.generateFromPassword with
          | .error _ =>
              (server, { status := 500, message := "Failed to hash new password" })
          | .ok hash =>
              (server.setCredentials server.config.localAuthMode hash
                call.newUUID).saveConfig call failedToSave
                { status := 200, message := "Password updated successfully",
                  cookies := [("authToken", call.newUUID)] }

def handleDeletePassword (server : Server) (call : Call) (body : Option String) :
    Server × Response :=
  if server.config.hashedPassword = "" then
    (server, { status := 400, message := "Password is not set" })
  else if server.config.localAuthMode ≠ "password" then
    (server, { status := 400, message := "Password mode is not enabled" })
  else
    match body with
    | none => (server, { status := 400, message := "Invalid request" })
    | some password =>
        if password = "" then
          (server, { status := 400, message := "Invalid request" })
        else if call.compareHashAndPassword server.config.hashedPassword
            password = false then
          (server, { status := 401, message := "Incorrect password" })
        else
          (server.setCredentials "noPassword" "" "").saveConfig call failedToSave
            { status := 200, message := "Password disabled successfully",
              cookies := [("authToken", "")] }

/-- `handleSetup`.  The mode is stored before the password is checked. -/
def handleSetup (server : Server) (call : Call) (body : Option SetupRequest) :
    Server × Response :=
  if server.config.localAuthMode ≠ "" ∨ server.config.hashedPassword ≠ "" then
    (server, { status := 400, message := "Device is already set up" })
  else if (server.isAllowed call).1 = false then
    (server, tooManyRequests (server.isAllowed call).2)
  else
    match body with
    | none =>
        (server.recordFailure call,
          { status := 400, message := "Invalid request body" })
    | some request =>
        if request.localAuthMode ≠ "password" ∧
            request.localAuthMode ≠ "noPassword" then
          (server.recordFailure call,
            { status := 400, message := "Invalid localAuthMode" })
        else
          let server := server.setCredentials request.localAuthMode
            server.config.hashedPassword server.config.localAuthToken
          let failed := { status := 500, message := "Failed to save config" }
          let succeeded :=
            { status := 200, message := "Device setup completed successfully" }
          if request.localAuthMode = "password" then
            if request.password = "" then
              (server.recordFailure call,
                { status := 400,
                  message := "Password is required for password mode" })
            else if request.password.utf8ByteSize < minPasswordLength then
              (server.recordFailure call,
                { status := 400,
                  message := "Password must be at least 8 characters" })
            else if maxPasswordLength < request.password.utf8ByteSize then
              (server, { status := 400,
                         message := "Password must be at most 72 characters" })
            else
              match call.generateFromPassword with
              | .error _ =>
                  (server, { status := 500, message := "Failed to hash password" })
              | .ok hash =>
                  let cookies := [("authToken", call.newUUID)]
                  (server.setCredentials request.localAuthMode hash
                    call.newUUID).saveConfig call
                      { failed with cookies := cookies }
                      { succeeded with cookies := cookies }
          else
            (server.setCredentials request.localAuthMode "" "").saveConfig call
              failed succeeded

inductive Request where
  | setup (body : Option SetupRequest)
  | createPassword (body : Option String)
  | updatePassword (body : Option ChangePasswordRequest)
  | deletePassword (body : Option String)
  | login (body : Option String)
  | logout
  deriving DecidableEq, Repr

def handle (server : Server) (call : Call) : Request → Server × Response
  | .setup body => handleSetup server call body
  | .createPassword body => handleCreatePassword server call body
  | .updatePassword body => handleUpdatePassword server call body
  | .deletePassword body => handleDeletePassword server call body
  | .login body => handleLogin server call body
  | .logout => handleLogout server call

structure Label where
  request : Request
  call : Call

/-- UUIDs are not issued twice. -/
def step (server : Server) (label : Label) : Option Server :=
  if label.call.newUUID ≠ server.config.localAuthToken then
    some (handle server label.call label.request).1
  else none

/-- The three coupled fields. -/
structure Credentials where
  localAuthMode : String
  hashedPassword : String
  localAuthToken : String
  deriving DecidableEq, Repr

namespace Server

def credentials (server : Server) : Credentials where
  localAuthMode := server.config.localAuthMode
  hashedPassword := server.config.hashedPassword
  localAuthToken := server.config.localAuthToken

/-- The device asks for a password exactly when it has one. -/
def Consistent (server : Server) : Prop :=
  server.config.localAuthMode = "password" ↔ server.config.hashedPassword ≠ ""

variable {server : Server} {call : Call}

@[simp]
theorem credentials_saveConfig {failed succeeded : Response} :
    (server.saveConfig call failed succeeded).1.credentials =
      server.credentials := by
  unfold saveConfig
  split <;> rfl

theorem consistent_saveConfig {failed succeeded : Response} :
    (server.saveConfig call failed succeeded).1.Consistent ↔
      server.Consistent := by
  unfold saveConfig
  split <;> rfl

/-- A handler that ends by saving succeeds exactly when the save does. -/
theorem success_saveConfig_iff {failed succeeded : Response}
    (failure : ¬ failed.Success) (success : succeeded.Success) :
    (server.saveConfig call failed succeeded).2.Success ↔
      call.saveConfig = .ok () := by
  unfold saveConfig
  cases saved : call.saveConfig with
  | error err => exact iff_of_false failure nofun
  | ok => exact iff_of_true success rfl

end Server

/-- The password can be set. -/
def AcceptablePassword (password : String) : Prop :=
  minPasswordLength ≤ password.utf8ByteSize ∧
    password.utf8ByteSize ≤ maxPasswordLength

theorem AcceptablePassword.ne_empty {password : String}
    (acceptable : AcceptablePassword password) : password ≠ "" := by
  rintro rfl
  exact absurd acceptable.1 (by decide)

/-- The device is not set up and the client may try to. -/
def SetupOpen (server : Server) (call : Call) : Prop :=
  (server.config.localAuthMode = "" ∧ server.config.hashedPassword = "") ∧
    (server.isAllowed call).1 = true

/-- The request passes every check of its handler, which goes on to save
changed credentials. -/
def Commits (server : Server) (call : Call) : Request → Prop
  | .setup body =>
      SetupOpen server call ∧ ∃ request, body = some request ∧
        (request.localAuthMode = "password" ∧
            AcceptablePassword request.password ∧
            (∃ hash, call.generateFromPassword = .ok hash) ∨
          request.localAuthMode = "noPassword")
  | .createPassword body =>
      server.config.hashedPassword = "" ∧
        server.config.localAuthMode = "noPassword" ∧
        (∃ password, body = some password ∧ AcceptablePassword password) ∧
        ∃ hash, call.generateFromPassword = .ok hash
  | .updatePassword body =>
      server.config.hashedPassword ≠ "" ∧
        server.config.localAuthMode = "password" ∧
        (∃ request, body = some request ∧ request.oldPassword ≠ "" ∧
          AcceptablePassword request.newPassword ∧
          call.compareHashAndPassword server.config.hashedPassword
            request.oldPassword = true) ∧
        ∃ hash, call.generateFromPassword = .ok hash
  | .deletePassword body =>
      server.config.hashedPassword ≠ "" ∧
        server.config.localAuthMode = "password" ∧
        ∃ password, body = some password ∧ password ≠ "" ∧
          call.compareHashAndPassword server.config.hashedPassword
            password = true
  | .login body =>
      server.config.localAuthMode ≠ "noPassword" ∧
        (server.isAllowed call).1 = true ∧
        ∃ password, body = some password ∧
          call.compareHashAndPassword server.config.hashedPassword
            password = true
  | .logout => server.config.localAuthToken ≠ ""

/-- The request sets up password mode without an acceptable password, or the
password is not hashed. -/
def Strands (server : Server) (call : Call) : Request → Prop
  | .setup body =>
      SetupOpen server call ∧ ∃ request, body = some request ∧
        request.localAuthMode = "password" ∧
        (AcceptablePassword request.password →
          ∀ hash, call.generateFromPassword ≠ .ok hash)
  | _ => False

/-- How a request ends: it leaves the credentials alone, it stores new ones
and then saves them, or it leaves the device in password mode without a
password. -/
inductive Effect (server : Server) (call : Call) (request : Request) :
    Server × Response → Prop
  | unchanged {result : Server × Response}
      (same : result.1.credentials = server.credentials)
      (uncommitted : ¬ Commits server call request)
      (notStranding : ¬ Strands server call request) :
      Effect server call request result
  | committed {result : Server × Response}
      (commits : Commits server call request)
      (notStranding : ¬ Strands server call request)
      (changed : result.1.credentials ≠ server.credentials)
      (consistent : server.Consistent → result.1.Consistent)
      (answered : result.2.Success ↔ call.saveConfig = .ok ()) :
      Effect server call request result
  | stranded {result : Server × Response}
      (uncommitted : ¬ Commits server call request)
      (stranding : Strands server call request)
      (stored : result.1.credentials =
        ⟨"password", "", server.config.localAuthToken⟩)
      (failed : ¬ result.2.Success) :
      Effect server call request result

variable {server : Server} {call : Call} {request : Request}

/-- A handler that stores credentials and ends by saving them commits. -/
theorem Effect.of_save {next : Server} {mode hash token : String}
    {failed succeeded : Response} (commits : Commits server call request)
    (notStranding : ¬ Strands server call request)
    (changed : ⟨mode, hash, token⟩ ≠ server.credentials)
    (consistent : server.Consistent → (mode = "password" ↔ hash ≠ ""))
    (failure : failed.status = 500)
    (success : succeeded.status = 200 ∨ succeeded.status = 201) :
    Effect server call request
      ((next.setCredentials mode hash token).saveConfig call failed succeeded) := by
  refine .committed commits notStranding ?_ ?_ ?_
  · rw [Server.credentials_saveConfig]
    exact changed
  · rw [Server.consistent_saveConfig]
    exact consistent
  · apply Server.success_saveConfig_iff
    · unfold Response.Success
      omega
    · unfold Response.Success
      omega

theorem handleLogin_effect (body : Option String)
    (fresh : call.newUUID ≠ server.config.localAuthToken) :
    Effect server call (.login body) (handleLogin server call body) := by
  unfold handleLogin
  split_ifs with disabled lockedOut
  · exact .unchanged rfl (fun commits => commits.1 disabled) not_false
  · refine .unchanged rfl (fun ⟨_, allowed, _⟩ => ?_) not_false
    exact Bool.noConfusion (lockedOut.symm.trans allowed)
  · cases body with
    | none => exact .unchanged rfl (fun ⟨_, _, _, bound, _⟩ => nomatch bound) not_false
    | some password =>
        dsimp only
        split_ifs with correct
        · refine .of_save
            ⟨disabled, Bool.not_eq_false _ |>.mp lockedOut, password, rfl, correct⟩
            not_false ?_ id rfl (.inl rfl)
          exact fun same => fresh (congrArg Credentials.localAuthToken same)
        · refine .unchanged rfl (fun ⟨_, _, _, bound, matched⟩ => ?_) not_false
          obtain rfl := Option.some.inj bound
          exact correct matched

theorem handleLogout_effect :
    Effect server call .logout (handleLogout server call) := by
  unfold handleLogout
  by_cases loggedOut : server.config.localAuthToken = ""
  · refine .unchanged ?_ (fun commits => commits loggedOut) not_false
    rw [Server.credentials_saveConfig, ← loggedOut]
    rfl
  · refine .of_save loggedOut not_false ?_ id rfl (.inl rfl)
    exact fun same => loggedOut (congrArg Credentials.localAuthToken same).symm

theorem handleCreatePassword_effect (body : Option String) :
    Effect server call (.createPassword body)
      (handleCreatePassword server call body) := by
  unfold handleCreatePassword
  split_ifs with alreadySet notDisabled
  · exact .unchanged rfl (fun commits => alreadySet commits.1) not_false
  · exact .unchanged rfl (fun commits => notDisabled commits.2.1) not_false
  · cases body with
    | none =>
        exact .unchanged rfl (fun ⟨_, _, ⟨_, bound, _⟩, _⟩ => nomatch bound) not_false
    | some password =>
        have rejected : ¬ AcceptablePassword password →
            ¬ Commits server call (.createPassword (some password)) := by
          rintro unacceptable ⟨_, _, ⟨_, bound, acceptable⟩, _⟩
          obtain rfl := Option.some.inj bound
          exact unacceptable acceptable
        dsimp only
        split_ifs with isEmpty short long
        · exact .unchanged rfl (rejected fun acceptable =>
            acceptable.ne_empty isEmpty) not_false
        · exact .unchanged rfl (rejected fun acceptable =>
            Nat.not_le.mpr short acceptable.1) not_false
        · exact .unchanged rfl (rejected fun acceptable =>
            Nat.not_le.mpr long acceptable.2) not_false
        · cases generated : call.generateFromPassword with
          | error err =>
              refine .unchanged rfl (fun ⟨_, _, _, _, hashed⟩ => ?_) not_false
              rw [generated] at hashed
              cases hashed
          | ok hash =>
              refine .of_save
                ⟨not_not.mp alreadySet, not_not.mp notDisabled,
                  ⟨password, rfl, Nat.not_lt.mp short, Nat.not_lt.mp long⟩,
                  hash, generated⟩
                not_false ?_ ?_ rfl (.inr rfl)
              · intro same
                have mode := congrArg Credentials.localAuthMode same
                have stored : "password" = "noPassword" :=
                  mode.trans (not_not.mp notDisabled)
                exact absurd stored (by decide)
              · exact fun _ => iff_of_true rfl hash.2

theorem handleUpdatePassword_effect (body : Option ChangePasswordRequest)
    (fresh : call.newUUID ≠ server.config.localAuthToken) :
    Effect server call (.updatePassword body)
      (handleUpdatePassword server call body) := by
  unfold handleUpdatePassword
  split_ifs with notSet notEnabled
  · exact .unchanged rfl (fun commits => commits.1 notSet) not_false
  · exact .unchanged rfl (fun commits => notEnabled commits.2.1) not_false
  · cases body with
    | none =>
        exact .unchanged rfl (fun ⟨_, _, ⟨_, bound, _⟩, _⟩ => nomatch bound) not_false
    | some change =>
        have rejected : ¬ (change.oldPassword ≠ "" ∧
              AcceptablePassword change.newPassword ∧
              call.compareHashAndPassword server.config.hashedPassword
                change.oldPassword = true) →
            ¬ Commits server call (.updatePassword (some change)) := by
          rintro refused ⟨_, _, ⟨_, bound, passes⟩, _⟩
          obtain rfl := Option.some.inj bound
          exact refused passes
        dsimp only
        split_ifs with isEmpty short long incorrect
        · refine .unchanged rfl (rejected fun passes => ?_) not_false
          exact isEmpty.elim passes.1 passes.2.1.ne_empty
        · exact .unchanged rfl (rejected fun passes =>
            Nat.not_le.mpr short passes.2.1.1) not_false
        · exact .unchanged rfl (rejected fun passes =>
            Nat.not_le.mpr long passes.2.1.2) not_false
        · refine .unchanged rfl (rejected fun passes => ?_) not_false
          exact Bool.noConfusion (incorrect.symm.trans passes.2.2)
        · cases generated : call.generateFromPassword with
          | error err =>
              refine .unchanged rfl (fun ⟨_, _, _, _, hashed⟩ => ?_) not_false
              rw [generated] at hashed
              cases hashed
          | ok hash =>
              have enabled := not_not.mp notEnabled
              refine .of_save
                ⟨notSet, enabled,
                  ⟨change, rfl, fun old => isEmpty (.inl old),
                    ⟨Nat.not_lt.mp short, Nat.not_lt.mp long⟩,
                    Bool.not_eq_false _ |>.mp incorrect⟩,
                  hash, generated⟩
                not_false ?_ (fun _ => iff_of_true enabled hash.2) rfl (.inl rfl)
              exact fun same => fresh (congrArg Credentials.localAuthToken same)

theorem handleDeletePassword_effect (body : Option String) :
    Effect server call (.deletePassword body)
      (handleDeletePassword server call body) := by
  unfold handleDeletePassword
  split_ifs with notSet notEnabled
  · exact .unchanged rfl (fun commits => commits.1 notSet) not_false
  · exact .unchanged rfl (fun commits => notEnabled commits.2.1) not_false
  · cases body with
    | none =>
        exact .unchanged rfl (fun ⟨_, _, _, bound, _⟩ => nomatch bound) not_false
    | some password =>
        dsimp only
        split_ifs with isEmpty incorrect
        · refine .unchanged rfl (fun ⟨_, _, _, bound, given, _⟩ => ?_) not_false
          obtain rfl := Option.some.inj bound
          exact given isEmpty
        · refine .unchanged rfl (fun ⟨_, _, _, bound, _, matched⟩ => ?_) not_false
          obtain rfl := Option.some.inj bound
          exact Bool.noConfusion (incorrect.symm.trans matched)
        · refine .of_save
            ⟨notSet, not_not.mp notEnabled, password, rfl, isEmpty,
              Bool.not_eq_false _ |>.mp incorrect⟩
            not_false ?_ ?_ rfl (.inl rfl)
          · exact fun same => notSet
              (congrArg Credentials.hashedPassword same).symm
          · exact fun _ => iff_of_false (by decide) (fun nonempty => nonempty rfl)

/-- A setup request whose password is refused or not hashed strands the
device. -/
theorem Effect.of_refused {setup : SetupRequest}
    {result : Server × Response} (isOpen : SetupOpen server call)
    (passwordMode : setup.localAuthMode = "password")
    (refused : AcceptablePassword setup.password →
      ∀ hash, call.generateFromPassword ≠ .ok hash)
    (stored : result.1.credentials = ⟨setup.localAuthMode,
      server.config.hashedPassword, server.config.localAuthToken⟩)
    (failed : result.2.status = 400 ∨ result.2.status = 500) :
    Effect server call (.setup (some setup)) result := by
  refine .stranded (fun ⟨_, _, bound, mode⟩ => ?_)
    ⟨isOpen, setup, rfl, passwordMode, refused⟩ ?_
    (fun ⟨_, success⟩ => by omega)
  · obtain rfl := Option.some.inj bound
    rcases mode with ⟨_, acceptable, hash, hashed⟩ | noPassword
    · exact refused acceptable hash hashed
    · rw [passwordMode] at noPassword
      exact absurd noPassword (by decide)
  · rw [stored, passwordMode, isOpen.1.2]

/-- A setup request in password mode that is not refused does not strand. -/
theorem not_strands_of_hashed {setup : SetupRequest}
    {hash : { hash : String // hash ≠ "" }}
    (acceptable : AcceptablePassword setup.password)
    (hashed : call.generateFromPassword = .ok hash) :
    ¬ Strands server call (.setup (some setup)) := by
  rintro ⟨_, _, bound, _, refused⟩
  obtain rfl := Option.some.inj bound
  exact refused acceptable hash hashed

theorem handleSetup_effect (body : Option SetupRequest) :
    Effect server call (.setup body) (handleSetup server call body) := by
  unfold handleSetup
  split_ifs with alreadySet lockedOut
  · have notOpen : ¬ SetupOpen server call := fun isOpen =>
      alreadySet.elim (fun mode => mode isOpen.1.1) (fun hash => hash isOpen.1.2)
    exact .unchanged rfl (fun commits => notOpen commits.1)
      (fun strands => notOpen strands.1)
  · have notOpen : ¬ SetupOpen server call := fun isOpen =>
      Bool.noConfusion (lockedOut.symm.trans isOpen.2)
    exact .unchanged rfl (fun commits => notOpen commits.1)
      (fun strands => notOpen strands.1)
  · have notSet : server.config.localAuthMode = "" ∧
        server.config.hashedPassword = "" := by
      simpa only [ne_eq, not_or, not_not] using alreadySet
    have isOpen : SetupOpen server call :=
      ⟨notSet, Bool.not_eq_false _ |>.mp lockedOut⟩
    cases body with
    | none =>
        exact .unchanged rfl (fun ⟨_, _, bound, _⟩ => nomatch bound)
          (fun ⟨_, _, bound, _⟩ => nomatch bound)
    | some setup =>
        dsimp only
        split_ifs with unknown passwordMode isEmpty short long
        · refine .unchanged rfl (fun ⟨_, _, bound, mode⟩ => ?_)
            (fun ⟨_, _, bound, mode, _⟩ => ?_)
          · obtain rfl := Option.some.inj bound
            exact mode.elim (fun password => unknown.1 password.1) unknown.2
          · obtain rfl := Option.some.inj bound
            exact unknown.1 mode
        · exact .of_refused isOpen passwordMode
            (fun acceptable => absurd isEmpty acceptable.ne_empty) rfl (.inl rfl)
        · exact .of_refused isOpen passwordMode
            (fun acceptable => absurd short (Nat.not_lt.mpr acceptable.1)) rfl
            (.inl rfl)
        · exact .of_refused isOpen passwordMode
            (fun acceptable => absurd long (Nat.not_lt.mpr acceptable.2)) rfl
            (.inl rfl)
        · have acceptable : AcceptablePassword setup.password :=
            ⟨Nat.not_lt.mp short, Nat.not_lt.mp long⟩
          cases generated : call.generateFromPassword with
          | error err =>
              refine .of_refused isOpen passwordMode (fun _ hash hashed => ?_) rfl
                (.inr rfl)
              rw [generated] at hashed
              cases hashed
          | ok hash =>
              refine .of_save
                ⟨isOpen, setup, rfl, .inl ⟨passwordMode, acceptable, hash, generated⟩⟩
                (not_strands_of_hashed acceptable generated) ?_
                (fun _ => iff_of_true passwordMode hash.2) rfl (.inl rfl)
              intro same
              have stored := congrArg Credentials.hashedPassword same
              exact hash.2 (stored.trans notSet.2)
        · have noPassword : setup.localAuthMode = "noPassword" := by
            by_contra other
            exact unknown ⟨passwordMode, other⟩
          refine .of_save ⟨isOpen, setup, rfl, .inr noPassword⟩
            (fun ⟨_, _, bound, mode, _⟩ => ?_) ?_ ?_ rfl (.inl rfl)
          · obtain rfl := Option.some.inj bound
            exact passwordMode mode
          · intro same
            have mode := congrArg Credentials.localAuthMode same
            have stored : "noPassword" = "" :=
              noPassword.symm.trans (mode.trans notSet.1)
            exact absurd stored (by decide)
          · exact fun _ => iff_of_false passwordMode (fun nonempty => nonempty rfl)

theorem effect_of_handle (request : Request)
    (fresh : call.newUUID ≠ server.config.localAuthToken) :
    Effect server call request (handle server call request) := by
  cases request with
  | setup body => exact handleSetup_effect body
  | createPassword body => exact handleCreatePassword_effect body
  | updatePassword body => exact handleUpdatePassword_effect body fresh
  | deletePassword body => exact handleDeletePassword_effect body
  | login body => exact handleLogin_effect body fresh
  | logout => exact handleLogout_effect

/-- A request that is not answered with success leaves the credentials as
they were. -/
def FailsInertly (server : Server) (label : Label) : Prop :=
  ¬ (handle server label.call label.request).2.Success →
    (handle server label.call label.request).1.credentials = server.credentials

/-- No request sets up password mode without a hashed password, and every
request that stores credentials saves them. -/
def SavesWhatItStores (server : Server) (label : Label) : Prop :=
  ¬ Strands server label.call label.request ∧
    (Commits server label.call label.request →
      label.call.saveConfig = .ok ())

theorem savesWhatItStores_iff_failsInertly {label : Label}
    (fresh : label.call.newUUID ≠ server.config.localAuthToken) :
    SavesWhatItStores server label ↔ FailsInertly server label := by
  unfold SavesWhatItStores FailsInertly
  cases effect_of_handle label.request fresh with
  | unchanged same uncommitted notStranding =>
      exact iff_of_true ⟨notStranding, fun commits => absurd commits uncommitted⟩
        fun _ => same
  | committed commits notStranding changed consistent answered =>
      rw [answered]
      constructor
      · rintro ⟨_, saves⟩ unsaved
        exact absurd (saves commits) unsaved
      · intro inert
        refine ⟨notStranding, fun _ => ?_⟩
        by_contra unsaved
        exact changed (inert unsaved)
  | stranded uncommitted stranding stored failed =>
      refine iff_of_false (fun saves => saves.1 stranding) fun inert => ?_
      -- only a device that is not set up can be stranded
      have same := stored.symm.trans (inert failed)
      have mode := congrArg Credentials.localAuthMode same
      cases isSetup : label.request with
      | setup body =>
          rw [isSetup] at stranding
          have stored : "password" = "" := mode.trans stranding.1.1.1
          exact absurd stored (by decide)
      | _ =>
          rw [isSetup] at stranding
          exact stranding.elim

theorem consistent_handle {label : Label}
    (consistent : server.Consistent)
    (fresh : label.call.newUUID ≠ server.config.localAuthToken)
    (saves : SavesWhatItStores server label) :
    (handle server label.call label.request).1.Consistent := by
  cases effect_of_handle label.request fresh with
  | unchanged same uncommitted notStranding =>
      have mode := congrArg Credentials.localAuthMode same
      have hash := congrArg Credentials.hashedPassword same
      unfold Server.Consistent at consistent ⊢
      simp only [Server.credentials] at mode hash
      rw [mode, hash]
      exact consistent
  | committed commits notStranding changed keepsConsistent answered =>
      exact keepsConsistent consistent
  | stranded uncommitted stranding stored failed =>
      exact absurd stranding saves.1

theorem step_eq_some {next : Server} {label : Label}
    (taken : step server label = some next) :
    label.call.newUUID ≠ server.config.localAuthToken ∧
      (handle server label.call label.request).1 = next := by
  unfold step at taken
  split at taken
  case isTrue fresh => exact ⟨fresh, Option.some.inj taken⟩
  case isFalse => cases taken

/-- From a device that is not set up, the runs in which failed requests leave
the credentials alone and the mode agrees with the password are exactly those
in which no setup is stranded and everything stored is saved. -/
theorem failsInertly_iff_savesWhatItStores (labels : List Label) :
    (AllSteps step FailsInertly {} labels ∧
        AllStates step Server.Consistent {} labels) ↔
      AllSteps step SavesWhatItStores {} labels := by
  have initial : Server.Consistent {} :=
    iff_of_false (by decide) (fun nonempty => nonempty rfl)
  refine @allSteps_and_allStates_iff Server Label step Server.Consistent
    Server.Consistent SavesWhatItStores FailsInertly (fun consistent => consistent)
    ?_ ?_ {} initial labels
  · intro server next label consistent saves taken
    obtain ⟨fresh, rfl⟩ := step_eq_some taken
    exact consistent_handle consistent fresh saves
  · intro server next label _ taken
    exact savesWhatItStores_iff_failsInertly (step_eq_some taken).1

/-- A setup in password mode with a password of three characters. -/
def shortPasswordSetup : Label where
  request := .setup (some ⟨"password", "abc"⟩)
  call :=
    { clientIP := "192.168.1.7"
      checked := 0
      recorded := 0
      compareHashAndPassword := fun _ _ => false
      generateFromPassword := .error "not reached"
      newUUID := "8b3e4a0c"
      saveConfig := .ok () }

/-- The request is refused, and the device is left in password mode without a
password. -/
theorem short_password_strands_the_device :
    ¬ (AllSteps step FailsInertly {} [shortPasswordSetup] ∧
      AllStates step Server.Consistent {} [shortPasswordSetup]) := by
  rintro ⟨-, consistent⟩
  have last := consistent.last rfl
  exact absurd rfl (last.mp rfl)

end LocalAuth

end JetKvm
