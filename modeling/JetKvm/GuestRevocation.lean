import JetKvm.SharingAuth
import Mathlib.Logic.Function.Basic

/-!
# Revocation of guest sessions

Guests log in, connect to the signalling WebSocket and send offers while the
admin kicks all clients or changes the sharing password.  A step is the
comparison or the end of a login, an authenticated request, the creation, the
registration or the close of a session, or one action of an admin call.

A completed revocation starts a new generation.  Beside the state of the
server a run records in which generation a guest last logged in and in which
one the cookie behind a socket or session was checked.
-/

namespace JetKvm

namespace GuestRevocation

open LabelledRuns RateLimit LocalAuth

/-- The cookie of a client, and the generation of its last login with the
password that was current when the cookie was issued; `outdated` says that the
cookie comes from a login with a replaced password. -/
structure Guest where
  shareToken : Option String := none
  outdated : Bool := false
  loggedIn : Option Nat := none
  deriving DecidableEq, Repr

/-- A login between the comparison with `password` and its answer. -/
structure Login where
  client : Nat
  password : String
  deriving DecidableEq, Repr

/-- The result of `webrtcAuthMiddleware`, kept for the life of a socket. -/
structure Admission where
  client : Nat
  role : Role
  generation : Nat
  outdated : Bool
  deriving DecidableEq, Repr

inductive Phase where
  | negotiating
  | registered
  | closed
  deriving DecidableEq, Repr

structure Session where
  admission : Admission
  phase : Phase := .negotiating
  deriving DecidableEq, Repr

/-- A call of `rpcKickAllClients` that has still to close some sessions of its
snapshot. -/
structure Kick where
  snapshot : List Nat
  remaining : List Nat
  deriving DecidableEq, Repr

structure State where
  server : Server
  sharingPassword : String
  issued : List String := []
  generation : Nat := 0
  guests : Nat → Guest := fun _ => {}
  logins : List Login := []
  sockets : List Admission := []
  sessions : List Session := []
  kicks : List Kick := []

inductive Label where
  | checkSharingPassword (client : Nat) (call : Call) (body : Option String)
  | issueShareToken (login : Nat) (newUUID : String)
  | handleLocalWebRTCSignal (client : Nat) (authToken : Option String)
  | handleSessionRequest (socket : Nat)
  | handleWebRTCSession (client : Nat) (authToken : Option String)
  | register (session : Nat)
  | close (session : Nat)
  | kickSnapshot
  | kickClose (kick : Nat)
  | kickRotate (kick : Nat) (newUUID : String)
  | setSharingPassword (password : String) (call : Call)

namespace State

/-- UUIDs are not issued twice. -/
def Fresh (state : State) (newUUID : String) : Prop :=
  newUUID ≠ "" ∧ newUUID ∉ state.issued

instance (state : State) (newUUID : String) : Decidable (state.Fresh newUUID) :=
  inferInstanceAs (Decidable (_ ∧ _))

def admissionOf (state : State) (client : Nat) (authToken : Option String) :
    Option Admission :=
  (webrtcAuthMiddleware state.server authToken
    (state.guests client).shareToken).map fun role =>
      { client := client
        role := role
        generation := state.generation
        outdated := (state.guests client).outdated }

def setPhase (state : State) (session : Nat) (phase : Phase) : State :=
  { state with
    sessions := state.sessions.modify session fun current =>
      { current with phase := phase } }

/-- The answer to a successful login. -/
def finishLogin (state : State) (login : Nat) (started : Login)
    (newUUID : String) : State :=
  let server := (issueShareToken state.server newUUID).1
  let current := state.guests started.client
  let isCurrent := started.password = state.sharingPassword
  { state with
    server := server
    issued := newUUID :: state.issued
    logins := state.logins.eraseIdx login
    guests := Function.update state.guests started.client
      { shareToken := some server.sharingAuthToken
        outdated := !decide isCurrent
        loggedIn := if isCurrent then some state.generation else current.loggedIn } }

/-- The registered sessions, as `sessions.snapshot` lists them. -/
def registeredSessions (state : State) : List Nat :=
  (List.range state.sessions.length).filter fun session =>
    (state.sessions[session]?.map Session.phase) = some .registered

/-- The call of `rpcSetSharingPassword` gets to store the password. -/
def Stores (password : String) (call : Call) : Prop :=
  password = "" ∨ ∃ hash, call.generateFromPassword = .ok hash

instance (password : String) (call : Call) : Decidable (Stores password call) :=
  match generated : call.generateFromPassword with
  | .ok hash => .isTrue (.inr ⟨hash, generated⟩)
  | .error _ =>
      decidable_of_iff (password = "")
        ⟨.inl, fun stores => stores.resolve_right fun ⟨_, hashed⟩ => by
          rw [generated] at hashed
          cases hashed⟩

end State

def step (state : State) : Label → Option State
  | .checkSharingPassword client call body =>
      match checkSharingPassword state.server call body with
      | (server, some _) => some { state with server := server }
      | (server, none) =>
          some
            { state with
              server := server
              logins := state.logins ++ [⟨client, state.sharingPassword⟩] }
  | .issueShareToken login newUUID =>
      match state.logins[login]? with
      | some started =>
          if state.Fresh newUUID then
            some (state.finishLogin login started newUUID)
          else none
      | none => none
  | .handleLocalWebRTCSignal client authToken =>
      (state.admissionOf client authToken).map fun admission =>
        { state with sockets := state.sockets ++ [admission] }
  | .handleSessionRequest socket =>
      state.sockets[socket]?.map fun admission =>
        { state with sessions := state.sessions ++ [⟨admission, .negotiating⟩] }
  | .handleWebRTCSession client authToken =>
      (state.admissionOf client authToken).map fun admission =>
        { state with sessions := state.sessions ++ [⟨admission, .negotiating⟩] }
  | .register session =>
      match state.sessions[session]? with
      | some ⟨_, .negotiating⟩ => some (state.setPhase session .registered)
      | _ => none
  | .close session => some (state.setPhase session .closed)
  | .kickSnapshot =>
      let snapshot := state.registeredSessions
      some { state with kicks := state.kicks ++ [⟨snapshot, snapshot⟩] }
  | .kickClose kick =>
      match state.kicks[kick]? with
      | some ⟨snapshot, session :: remaining⟩ =>
          some
            { state.setPhase session .closed with
              kicks := state.kicks.set kick ⟨snapshot, remaining⟩ }
      | _ => none
  | .kickRotate kick newUUID =>
      match state.kicks[kick]? with
      | some ⟨_, []⟩ =>
          if state.Fresh newUUID then
            some
              { state with
                server := rotateShareToken state.server newUUID
                issued := newUUID :: state.issued
                generation := state.generation + 1
                kicks := state.kicks.eraseIdx kick }
          else none
      | _ => none
  | .setSharingPassword password call =>
      if State.Stores password call then
        if state.Fresh call.newUUID then
          some
            { state with
              server := (rpcSetSharingPassword state.server call password).1
              sharingPassword := password
              issued := call.newUUID :: state.issued
              generation :=
                if password = state.sharingPassword then state.generation
                else state.generation + 1 }
        else none
      -- the error is returned before anything is stored
      else some state

namespace State

/-- The guest has logged in with the current password since the last
completed revocation. -/
def LoggedIn (state : State) (client : Nat) : Prop :=
  (state.guests client).loggedIn = some state.generation

/-- Every registered guest session belongs to a guest who has logged in since
the last completed revocation. -/
def RevocationHolds (state : State) : Prop :=
  ∀ session ∈ state.sessions, session.phase = .registered →
    session.admission.role = .guest → state.LoggedIn session.admission.client

/-- No guest session is registered. -/
def NoGuestRegistered (state : State) : Prop :=
  ∀ session ∈ state.sessions, session.phase = .registered →
    session.admission.role ≠ .guest

end State

/-- A guest session is registered on a check of an up-to-date cookie made
since the last completed revocation, or after its guest logged in again; when
a kick completes its snapshot has all registered guest sessions; and when a
changed password is stored there are none. -/
def Effective (state : State) : Label → Prop
  | .register session =>
      ∀ current, state.sessions[session]? = some current →
        current.admission.role = .guest →
          (current.admission.generation = state.generation ∧
              current.admission.outdated = false) ∨
            state.LoggedIn current.admission.client
  | .kickRotate kick _ =>
      ∀ current, state.kicks[kick]? = some current →
        ∀ session registered, state.sessions[session]? = some registered →
          registered.phase = .registered → registered.admission.role = .guest →
            session ∈ current.snapshot
  | .setSharingPassword password call =>
      State.Stores password call → password ≠ state.sharingPassword →
        state.NoGuestRegistered
  | _ => True

/-! ## What an admission is worth -/

/-- An admission of the present generation with an up-to-date cookie belongs
to a guest who has logged in since the last completed revocation. -/
structure Vouched (state : State) (admission : Admission) : Prop where
  generation_le : admission.generation ≤ state.generation
  loggedIn : admission.role = .guest →
    admission.generation = state.generation → admission.outdated = false →
      state.LoggedIn admission.client

/-- The session was closed. -/
def Closed (state : State) (session : Nat) : Prop :=
  ∃ current, state.sessions[session]? = some current ∧ current.phase = .closed

structure Invariant (state : State) : Prop where
  tokenIssued : state.server.sharingAuthToken = "" ∨
    state.server.sharingAuthToken ∈ state.issued
  cookieIssued : ∀ {client token},
    (state.guests client).shareToken = some token → token ∈ state.issued
  loggedIn_le : ∀ {client generation},
    (state.guests client).loggedIn = some generation →
      generation ≤ state.generation
  cookie : ∀ {client},
    (state.guests client).shareToken = some state.server.sharingAuthToken →
    state.server.sharingAuthToken ≠ "" →
    state.server.config.sharingPasswordHash ≠ "" →
    (state.guests client).outdated = false → state.LoggedIn client
  sockets : ∀ admission ∈ state.sockets, Vouched state admission
  sessions : ∀ session ∈ state.sessions, Vouched state session.admission
  kicks : ∀ kick ∈ state.kicks, ∀ session ∈ kick.snapshot,
    session < state.sessions.length ∧
      (session ∈ kick.remaining ∨ Closed state session)

theorem Invariant.initial (config : Config) (sharingPassword : String) :
    Invariant { server := { config := config },
                sharingPassword := sharingPassword } where
  tokenIssued := .inl rfl
  cookieIssued := nofun
  loggedIn_le := nofun
  cookie := fun found => by cases found
  sockets := nofun
  sessions := nofun
  kicks := nofun

/-- Only an unchanged share token lets a guest in. -/
theorem guest_of_webrtcAuthMiddleware {server : Server}
    {authToken shareToken : Option String}
    (admitted : webrtcAuthMiddleware server authToken shareToken = some .guest) :
    server.config.sharingPasswordHash ≠ "" ∧ server.sharingAuthToken ≠ "" ∧
      shareToken = some server.sharingAuthToken := by
  unfold webrtcAuthMiddleware at admitted
  split_ifs at admitted with noPassword isAdmin isGuest
  · cases admitted
  · cases admitted
  · exact ⟨isGuest.1.1, isGuest.1.2, isGuest.2⟩

theorem checkSharingPassword_server (server : Server) (call : Call)
    (body : Option String) :
    (checkSharingPassword server call body).1.config = server.config ∧
      (checkSharingPassword server call body).1.sharingAuthToken =
        server.sharingAuthToken := by
  unfold checkSharingPassword
  split_ifs
  · exact ⟨rfl, rfl⟩
  · exact ⟨rfl, rfl⟩
  · cases body with
    | none => exact ⟨rfl, rfl⟩
    | some password =>
        dsimp only
        split_ifs
        · exact ⟨rfl, rfl⟩
        · exact ⟨rfl, rfl⟩

variable {state next : State} {label : Label}

/-- An admission is worth the same after a step that leaves the guests and the
generation alone. -/
theorem Vouched.of_frame {admission : Admission} (vouched : Vouched state admission)
    (guests : next.guests = state.guests)
    (generation : next.generation = state.generation) : Vouched next admission where
  generation_le := by
    rw [generation]
    exact vouched.generation_le
  loggedIn := fun isGuest now upToDate => by
    unfold State.LoggedIn
    rw [guests, generation]
    exact vouched.loggedIn isGuest (now.trans generation) upToDate

/-- An admission by the middleware is vouched for. -/
theorem Invariant.vouched_admissionOf (invariant : Invariant state) {client : Nat}
    {authToken : Option String} {admission : Admission}
    (admitted : state.admissionOf client authToken = some admission) :
    Vouched state admission := by
  obtain ⟨role, passes, rfl⟩ := Option.map_eq_some_iff.mp admitted
  refine ⟨Nat.le_refl _, fun isGuest _ upToDate => ?_⟩
  obtain rfl : role = .guest := isGuest
  obtain ⟨enabled, issued, presented⟩ := guest_of_webrtcAuthMiddleware passes
  exact invariant.cookie presented issued enabled upToDate

theorem mem_setPhase {session : Session} {id : Nat} {phase : Phase}
    (listed : session ∈ (state.setPhase id phase).sessions) :
    (session ∈ state.sessions) ∨
      ∃ current, state.sessions[id]? = some current ∧
        session = { current with phase := phase } := by
  obtain ⟨other, found⟩ := List.mem_iff_getElem?.mp listed
  simp only [State.setPhase, List.getElem?_modify] at found
  split at found
  case isTrue same =>
    obtain ⟨current, isThere, rfl⟩ := Option.map_eq_some_iff.mp found
    exact .inr ⟨current, same ▸ isThere, rfl⟩
  case isFalse =>
    rw [id_map'] at found
    exact .inl (List.mem_iff_getElem?.mpr ⟨other, found⟩)

theorem closed_of_close {session : Nat}
    (inside : session < (state.setPhase session .closed).sessions.length) :
    Closed (state.setPhase session .closed) session := by
  have isThere : session < state.sessions.length := by
    simpa [State.setPhase] using inside
  refine ⟨{ state.sessions.get ⟨session, isThere⟩ with phase := .closed }, ?_, rfl⟩
  simp [State.setPhase, List.getElem?_eq_getElem isThere]

/-- Changing the phase of a session that is not closed keeps the others
closed. -/
theorem closed_setPhase {id session : Nat} {phase : Phase}
    (keeps : phase = .closed ∨ ¬ Closed state id)
    (closed : Closed state session) :
    Closed (state.setPhase id phase) session := by
  obtain ⟨current, found, isClosed⟩ := closed
  by_cases same : id = session
  · subst same
    rcases keeps with rfl | open_
    · exact ⟨{ current with phase := .closed }, by simp [State.setPhase, found], rfl⟩
    · exact absurd ⟨current, found, isClosed⟩ open_
  · exact ⟨current, by simp [State.setPhase, same, found], isClosed⟩

theorem vouched_setPhase (vouched : ∀ session ∈ state.sessions,
      Vouched state session.admission) {id : Nat} {phase : Phase} :
    ∀ session ∈ (state.setPhase id phase).sessions,
      Vouched (state.setPhase id phase) session.admission := by
  intro session listed
  rcases mem_setPhase listed with old | ⟨current, found, rfl⟩
  · exact (vouched session old).of_frame rfl rfl
  · exact (vouched current (List.mem_of_getElem? found)).of_frame rfl rfl

theorem Invariant.setPhase (invariant : Invariant state) {id : Nat}
    {phase : Phase} (keeps : phase = .closed ∨ ¬ Closed state id) :
    Invariant (state.setPhase id phase) where
  tokenIssued := invariant.tokenIssued
  cookieIssued := invariant.cookieIssued
  loggedIn_le := invariant.loggedIn_le
  cookie := invariant.cookie
  sockets := fun admission listed =>
    (invariant.sockets admission listed).of_frame rfl rfl
  sessions := vouched_setPhase invariant.sessions
  kicks := fun kick listed session inSnapshot => by
    obtain ⟨inside, before⟩ := invariant.kicks kick listed session inSnapshot
    exact ⟨by simpa [State.setPhase] using inside,
      before.imp_right (closed_setPhase keeps)⟩

/-- A login that is answered logs its guest in if the password is still the
one it was compared with, and nobody out. -/
theorem loggedIn_finishLogin {login client : Nat} {started : Login}
    {newUUID : String} (loggedIn : state.LoggedIn client) :
    (state.finishLogin login started newUUID).LoggedIn client := by
  unfold State.LoggedIn State.finishLogin at *
  by_cases same : client = started.client
  · subst same
    dsimp only
    rw [Function.update_self]
    split
    · rfl
    · exact loggedIn
  · dsimp only
    rw [Function.update_of_ne same]
    exact loggedIn

theorem Invariant.finishLogin (invariant : Invariant state) {login : Nat}
    {started : Login} {newUUID : String} (fresh : state.Fresh newUUID) :
    Invariant (state.finishLogin login started newUUID) := by
  have token : (issueShareToken state.server newUUID).1.sharingAuthToken =
        newUUID ∨
      state.server.sharingAuthToken ≠ "" ∧
        (issueShareToken state.server newUUID).1.sharingAuthToken =
          state.server.sharingAuthToken := by
    unfold issueShareToken
    dsimp only
    split
    case isTrue => exact .inl rfl
    case isFalse present => exact .inr ⟨present, rfl⟩
  have tokenIssued : (issueShareToken state.server newUUID).1.sharingAuthToken ∈
      newUUID :: state.issued := by
    rcases token with isNew | ⟨present, kept⟩
    · rw [isNew]
      exact .head _
    · rw [kept]
      exact .tail _ (invariant.tokenIssued.resolve_left present)
  have vouched : ∀ admission, Vouched state admission →
      Vouched (state.finishLogin login started newUUID) admission :=
    fun admission before => ⟨before.generation_le, fun isGuest now upToDate =>
      loggedIn_finishLogin (before.loggedIn isGuest now upToDate)⟩
  refine ⟨.inr tokenIssued, ?_, ?_, ?_,
    fun admission listed => vouched _ (invariant.sockets admission listed),
    fun session listed => vouched _ (invariant.sessions session listed),
    invariant.kicks⟩
  · intro client cookie held
    unfold State.finishLogin at held
    dsimp only at held
    by_cases same : client = started.client
    · subst same
      rw [Function.update_self] at held
      obtain rfl := Option.some.inj held
      exact tokenIssued
    · rw [Function.update_of_ne same] at held
      exact .tail _ (invariant.cookieIssued held)
  · intro client generation logged
    unfold State.finishLogin at logged
    dsimp only at logged
    by_cases same : client = started.client
    · subst same
      rw [Function.update_self] at logged
      dsimp only at logged
      split at logged
      · obtain rfl := Option.some.inj logged
        exact Nat.le_refl _
      · exact invariant.loggedIn_le logged
    · rw [Function.update_of_ne same] at logged
      exact invariant.loggedIn_le logged
  · intro client held present enabled upToDate
    by_cases same : client = started.client
    · subst same
      unfold State.LoggedIn
      unfold State.finishLogin at upToDate ⊢
      dsimp only at upToDate ⊢
      rw [Function.update_self] at upToDate ⊢
      have isCurrent : started.password = state.sharingPassword := by
        simpa using upToDate
      exact if_pos isCurrent
    · apply loggedIn_finishLogin
      unfold State.finishLogin at held upToDate enabled
      dsimp only at held upToDate enabled
      rw [Function.update_of_ne same] at held upToDate
      rcases token with isNew | ⟨tokenPresent, kept⟩
      · -- the new token is in no cookie yet
        rw [isNew] at held
        exact absurd (invariant.cookieIssued held) fresh.2
      · rw [kept] at held
        exact invariant.cookie held tokenPresent enabled upToDate

/-- In a new generation no earlier admission counts. -/
theorem Vouched.outlived {admission : Admission} {generation : Nat}
    (vouched : Vouched state admission)
    (newer : next.generation = generation + 1)
    (before : state.generation = generation) : Vouched next admission where
  generation_le := by
    have old := vouched.generation_le
    omega
  loggedIn := fun _ now _ => by
    have old := vouched.generation_le
    omega

/-- Once the token is rotated no cookie is accepted. -/
theorem cookie_of_fresh {newUUID : String} (invariant : Invariant state)
    (fresh : state.Fresh newUUID) {client : Nat} {server : Server}
    (rotated : server.config.sharingPasswordHash = "" ∨
      server.sharingAuthToken = newUUID)
    (held : (state.guests client).shareToken = some server.sharingAuthToken)
    (enabled : server.config.sharingPasswordHash ≠ "") : False := by
  have token := rotated.resolve_left enabled
  rw [token] at held
  exact fresh.2 (invariant.cookieIssued held)

theorem rotateShareToken_rotates (server : Server) (newUUID : String) :
    (rotateShareToken server newUUID).config.sharingPasswordHash = "" ∨
      (rotateShareToken server newUUID).sharingAuthToken = newUUID := by
  unfold rotateShareToken
  split_ifs with enabled
  · exact .inr rfl
  · exact .inl (not_not.mp enabled)

theorem rpcSetSharingPassword_rotates {server : Server} {call : Call}
    {password : String} (stores : State.Stores password call) :
    (rpcSetSharingPassword server call password).1.config.sharingPasswordHash = "" ∧
        (rpcSetSharingPassword server call password).1.sharingAuthToken = "" ∨
      (rpcSetSharingPassword server call password).1.sharingAuthToken =
        call.newUUID := by
  unfold rpcSetSharingPassword
  by_cases cleared : password = ""
  · rw [if_pos cleared]
    exact .inl ⟨rfl, rfl⟩
  · obtain ⟨hash, generated⟩ := stores.resolve_left cleared
    rw [if_neg cleared, generated]
    exact .inr rfl

theorem not_closed_of_phase {id : Nat} {current : Session}
    (found : state.sessions[id]? = some current)
    (isOpen : current.phase ≠ .closed) : ¬ Closed state id := by
  rintro ⟨other, otherFound, isClosed⟩
  rw [found] at otherFound
  obtain rfl := Option.some.inj otherFound
  exact isOpen isClosed

/-- Adding a session leaves the earlier ones where they are. -/
theorem closed_append {session : Nat} {new : Session}
    (sessions : next.sessions = state.sessions ++ [new])
    (closed : Closed state session) : Closed next session := by
  obtain ⟨current, found, isClosed⟩ := closed
  have inside := (List.getElem?_eq_some_iff.mp found).1
  refine ⟨current, ?_, isClosed⟩
  rw [sessions, List.getElem?_append_left inside, found]

/-- A session is created with an admission that is vouched for. -/
theorem Invariant.newSession (invariant : Invariant state)
    {admission : Admission} (vouched : Vouched state admission) :
    Invariant { state with
      sessions := state.sessions ++ [⟨admission, .negotiating⟩] } where
  tokenIssued := invariant.tokenIssued
  cookieIssued := invariant.cookieIssued
  loggedIn_le := invariant.loggedIn_le
  cookie := invariant.cookie
  sockets := fun other listed =>
    (invariant.sockets other listed).of_frame rfl rfl
  sessions := fun session listed => by
    rcases List.mem_append.mp listed with old | isNew
    · exact (invariant.sessions session old).of_frame rfl rfl
    · obtain rfl := List.mem_singleton.mp isNew
      exact vouched.of_frame rfl rfl
  kicks := fun kick listed session inSnapshot => by
    obtain ⟨inside, before⟩ := invariant.kicks kick listed session inSnapshot
    refine ⟨?_, before.imp_right (closed_append rfl)⟩
    rw [List.length_append]
    omega

/-- A revocation that rotates the token completes. -/
theorem Invariant.revoke (invariant : Invariant state) {newUUID : String}
    (fresh : state.Fresh newUUID) {server : Server} {password : String}
    {kicks : List Kick}
    (rotated : server.config.sharingPasswordHash = "" ∨
      server.sharingAuthToken = newUUID)
    (issued : server.sharingAuthToken = "" ∨
      server.sharingAuthToken ∈ newUUID :: state.issued)
    (fewer : ∀ kick ∈ kicks, kick ∈ state.kicks) :
    Invariant { state with
      server := server
      sharingPassword := password
      issued := newUUID :: state.issued
      generation := state.generation + 1
      kicks := kicks } where
  tokenIssued := issued
  cookieIssued := fun held => .tail _ (invariant.cookieIssued held)
  loggedIn_le := fun logged =>
    Nat.le_succ_of_le (invariant.loggedIn_le logged)
  cookie := fun held _ enabled _ =>
    (cookie_of_fresh invariant fresh rotated held enabled).elim
  sockets := fun admission listed =>
    (invariant.sockets admission listed).outlived rfl rfl
  sessions := fun session listed =>
    (invariant.sessions session listed).outlived rfl rfl
  kicks := fun kick listed session inSnapshot =>
    invariant.kicks kick (fewer kick listed) session inSnapshot

/-- Storing a new password for the same plaintext rotates the token within the
generation. -/
theorem Invariant.renew (invariant : Invariant state) {newUUID : String}
    (fresh : state.Fresh newUUID) {server : Server} {password : String}
    (rotated : server.config.sharingPasswordHash = "" ∨
      server.sharingAuthToken = newUUID)
    (issued : server.sharingAuthToken = "" ∨
      server.sharingAuthToken ∈ newUUID :: state.issued) :
    Invariant { state with
      server := server
      sharingPassword := password
      issued := newUUID :: state.issued } where
  tokenIssued := issued
  cookieIssued := fun held => .tail _ (invariant.cookieIssued held)
  loggedIn_le := invariant.loggedIn_le
  cookie := fun held _ enabled _ =>
    (cookie_of_fresh invariant fresh rotated held enabled).elim
  sockets := fun admission listed =>
    (invariant.sockets admission listed).of_frame rfl rfl
  sessions := fun session listed =>
    (invariant.sessions session listed).of_frame rfl rfl
  kicks := invariant.kicks

theorem Invariant.checkSharingPassword (invariant : Invariant state)
    {client : Nat} {call : Call} {body : Option String}
    (taken : step state (.checkSharingPassword client call body) = some next) :
    Invariant next ∧ next.sessions = state.sessions ∧
      next.guests = state.guests ∧ next.generation = state.generation := by
  have same := checkSharingPassword_server state.server call body
  have carried : ∀ server : Server, server.config = state.server.config →
      server.sharingAuthToken = state.server.sharingAuthToken →
      ∀ logins, Invariant { state with server := server, logins := logins } := by
    intro server sameConfig sameToken logins
    refine ⟨?_, invariant.cookieIssued, invariant.loggedIn_le, ?_, ?_, ?_,
      invariant.kicks⟩
    · dsimp only
      rw [sameToken]
      exact invariant.tokenIssued
    · dsimp only
      rw [sameToken, sameConfig]
      exact invariant.cookie
    · intro admission listed
      exact (invariant.sockets admission listed).of_frame rfl rfl
    · intro session listed
      exact (invariant.sessions session listed).of_frame rfl rfl
  simp only [step] at taken
  split at taken
  case h_1 server response checked =>
    rw [checked] at same
    obtain rfl := Option.some.inj taken
    exact ⟨carried server same.1 same.2 _, rfl, rfl, rfl⟩
  case h_2 server checked =>
    rw [checked] at same
    obtain rfl := Option.some.inj taken
    exact ⟨carried server same.1 same.2 _, rfl, rfl, rfl⟩

theorem rotateShareToken_issued {newUUID : String} (invariant : Invariant state) :
    (rotateShareToken state.server newUUID).sharingAuthToken = "" ∨
      (rotateShareToken state.server newUUID).sharingAuthToken ∈
        newUUID :: state.issued := by
  unfold rotateShareToken
  split_ifs
  · exact .inr (.head _)
  · exact invariant.tokenIssued.imp_right (.tail _)

theorem rpcSetSharingPassword_issued {server : Server} {call : Call}
    {password : String} (stores : State.Stores password call)
    (issued : List String) :
    (rpcSetSharingPassword server call password).1.sharingAuthToken = "" ∨
      (rpcSetSharingPassword server call password).1.sharingAuthToken ∈
        call.newUUID :: issued := by
  rcases @rpcSetSharingPassword_rotates server call password stores with
    cleared | rotated
  · exact .inl cleared.2
  · rw [rotated]
    exact .inr (.head _)

/-- The guests who are logged in stay so while the generation lasts, and the
sessions keep their phases. -/
theorem RevocationHolds.of_frame (holds : state.RevocationHolds)
    (sessions : ∀ session ∈ next.sessions, session ∈ state.sessions ∨
      session.phase ≠ .registered)
    (loggedIn : ∀ client, state.LoggedIn client → next.LoggedIn client) :
    next.RevocationHolds := by
  intro session listed isRegistered isGuest
  rcases sessions session listed with old | notRegistered
  · exact loggedIn _ (holds session old isRegistered isGuest)
  · exact absurd isRegistered notRegistered

/-- A completed revocation holds exactly when no guest session is registered. -/
theorem revocationHolds_revoked_iff (invariant : Invariant state)
    (sessions : next.sessions = state.sessions)
    (guests : next.guests = state.guests)
    (newer : next.generation = state.generation + 1) :
    next.RevocationHolds ↔ state.NoGuestRegistered := by
  have nobody : ∀ client, ¬ next.LoggedIn client := by
    intro client logged
    unfold State.LoggedIn at logged
    rw [guests, newer] at logged
    have old := invariant.loggedIn_le logged
    omega
  unfold State.RevocationHolds State.NoGuestRegistered
  rw [sessions]
  constructor
  · intro holds session listed isRegistered isGuest
    exact nobody _ (holds session listed isRegistered isGuest)
  · intro none session listed isRegistered isGuest
    exact absurd isGuest (none session listed isRegistered)

/-- What is left to show of a step: the invariant, and whether the revocation
still holds. -/
def Advances (state : State) (label : Label) (next : State) : Prop :=
  Invariant next ∧
    (state.RevocationHolds → (next.RevocationHolds ↔ Effective state label))

/-- A step that every condition allows and that only adds sessions which are
not registered. -/
theorem advances_of_frame (nextInvariant : Invariant next)
    (allowed : Effective state label)
    (sessions : ∀ session ∈ next.sessions, session ∈ state.sessions ∨
      session.phase ≠ .registered)
    (loggedIn : ∀ client, state.LoggedIn client → next.LoggedIn client) :
    Advances state label next :=
  ⟨nextInvariant, fun holds =>
    iff_of_true (RevocationHolds.of_frame holds sessions loggedIn) allowed⟩

theorem advances_newSession (invariant : Invariant state)
    {admission : Admission} (vouched : Vouched state admission)
    (allowed : Effective state label) :
    Advances state label { state with
      sessions := state.sessions ++ [⟨admission, .negotiating⟩] } := by
  refine advances_of_frame (invariant.newSession vouched) allowed ?_
    fun _ logged => logged
  intro session listed
  rcases List.mem_append.mp listed with old | isNew
  · exact .inl old
  · obtain rfl := List.mem_singleton.mp isNew
    exact .inr nofun

theorem advances_close (invariant : Invariant state) (id : Nat)
    (allowed : Effective state label) :
    Advances state label (state.setPhase id .closed) := by
  refine advances_of_frame (invariant.setPhase (.inl rfl)) allowed ?_
    fun _ logged => logged
  intro session listed
  rcases mem_setPhase listed with old | ⟨current, found, rfl⟩
  · exact .inl old
  · exact .inr nofun

theorem advances_register (invariant : Invariant state) {id : Nat}
    {admission : Admission}
    (found : state.sessions[id]? = some ⟨admission, .negotiating⟩) :
    Advances state (.register id) (state.setPhase id .registered) := by
  have stillOpen := not_closed_of_phase found nofun
  refine ⟨invariant.setPhase (.inr stillOpen), fun holds => ?_⟩
  have vouched := invariant.sessions _ (List.mem_of_getElem? found)
  constructor
  · intro nextHolds current sameFound isGuest
    obtain rfl := Option.some.inj (found.symm.trans sameFound)
    have listed : (⟨admission, .registered⟩ : Session) ∈
        (state.setPhase id .registered).sessions := by
      refine List.mem_iff_getElem?.mpr ⟨id, ?_⟩
      simp [State.setPhase, found]
    exact .inr (nextHolds ⟨admission, .registered⟩ listed rfl isGuest)
  · intro effective session listed isRegistered isGuest
    rcases mem_setPhase listed with old | ⟨current, sameFound, rfl⟩
    · exact holds session old isRegistered isGuest
    · rcases effective current sameFound isGuest with ⟨now, upToDate⟩ | logged
      · obtain rfl := Option.some.inj (found.symm.trans sameFound)
        exact vouched.loggedIn isGuest now upToDate
      · exact logged

/-- A kick has closed its snapshot when it completes. -/
theorem effective_kickRotate_iff (invariant : Invariant state) {kick : Nat}
    {snapshot : List Nat} {newUUID : String}
    (found : state.kicks[kick]? = some ⟨snapshot, []⟩) :
    Effective state (.kickRotate kick newUUID) ↔ state.NoGuestRegistered := by
  constructor
  · intro covers session listed isRegistered isGuest
    obtain ⟨id, sessionFound⟩ := List.mem_iff_getElem?.mp listed
    have inSnapshot := covers _ found id session sessionFound isRegistered isGuest
    have closed := (invariant.kicks _ (List.mem_of_getElem? found) id
      inSnapshot).2.resolve_left List.not_mem_nil
    refine not_closed_of_phase sessionFound ?_ closed
    rw [isRegistered]
    exact nofun
  · intro none current _ id session sessionFound isRegistered isGuest
    exact absurd isGuest
      (none session (List.mem_of_getElem? sessionFound) isRegistered)

theorem advances_kickSnapshot (invariant : Invariant state)
    (taken : step state .kickSnapshot = some next) :
    Advances state .kickSnapshot next := by
  obtain rfl := Option.some.inj taken
  refine advances_of_frame ⟨invariant.tokenIssued, invariant.cookieIssued,
    invariant.loggedIn_le, invariant.cookie, ?_, ?_, ?_⟩ trivial
    (fun _ listed => .inl listed) (fun _ logged => logged)
  · intro admission listed
    exact (invariant.sockets admission listed).of_frame rfl rfl
  · intro session listed
    exact (invariant.sessions session listed).of_frame rfl rfl
  · intro kick listed session inSnapshot
    rcases List.mem_append.mp listed with old | isNew
    · exact invariant.kicks kick old session inSnapshot
    · obtain rfl := List.mem_singleton.mp isNew
      have inside := List.mem_range.mp (List.mem_filter.mp inSnapshot).1
      exact ⟨inside, .inl inSnapshot⟩

theorem advances_kickClose (invariant : Invariant state) {kick session : Nat}
    {snapshot remaining : List Nat}
    (found : state.kicks[kick]? = some ⟨snapshot, session :: remaining⟩) :
    Advances state (.kickClose kick)
      { state.setPhase session .closed with
        kicks := state.kicks.set kick ⟨snapshot, remaining⟩ } := by
  obtain ⟨closes, holds⟩ := @advances_close state (.kickClose kick) invariant
    session trivial
  refine ⟨⟨closes.tokenIssued, closes.cookieIssued, closes.loggedIn_le,
    closes.cookie, ?_, ?_, ?_⟩, holds⟩
  · intro admission listed
    exact (closes.sockets admission listed).of_frame rfl rfl
  · intro other listed
    exact (closes.sessions other listed).of_frame rfl rfl
  · intro current listed other inSnapshot
    rcases List.mem_or_eq_of_mem_set listed with old | rfl
    · exact closes.kicks current old other inSnapshot
    · -- the session just closed leaves the remaining ones
      obtain ⟨inside, before⟩ :=
        closes.kicks _ (List.mem_of_getElem? found) other inSnapshot
      refine ⟨inside, ?_⟩
      rcases before with isRemaining | closed
      · rcases List.mem_cons.mp isRemaining with rfl | later
        · exact .inr (closed_of_close inside)
        · exact .inl later
      · exact .inr closed

theorem advances_of_step (invariant : Invariant state)
    (taken : step state label = some next) : Advances state label next := by
  cases label with
  | checkSharingPassword client call body =>
      obtain ⟨nextInvariant, sessions, guests, generation⟩ :=
        invariant.checkSharingPassword taken
      refine advances_of_frame nextInvariant trivial ?_ ?_
      · intro session listed
        exact .inl (sessions ▸ listed)
      · intro client logged
        unfold State.LoggedIn
        rw [guests, generation]
        exact logged
  | issueShareToken login newUUID =>
      simp only [step] at taken
      split at taken
      case h_2 => cases taken
      case h_1 started found =>
        split at taken
        case isFalse => cases taken
        case isTrue fresh =>
          obtain rfl := Option.some.inj taken
          exact advances_of_frame (invariant.finishLogin fresh) trivial
            (fun _ listed => .inl listed) fun _ => loggedIn_finishLogin
  | handleLocalWebRTCSignal client authToken =>
      obtain ⟨admission, admitted, rfl⟩ := Option.map_eq_some_iff.mp taken
      have vouched := invariant.vouched_admissionOf admitted
      refine advances_of_frame ⟨invariant.tokenIssued, invariant.cookieIssued,
        invariant.loggedIn_le, invariant.cookie, ?_, ?_, invariant.kicks⟩ trivial
        (fun _ listed => .inl listed) (fun _ logged => logged)
      · intro other listed
        rcases List.mem_append.mp listed with old | isNew
        · exact (invariant.sockets other old).of_frame rfl rfl
        · obtain rfl := List.mem_singleton.mp isNew
          exact vouched.of_frame rfl rfl
      · intro session listed
        exact (invariant.sessions session listed).of_frame rfl rfl
  | handleSessionRequest socket =>
      obtain ⟨admission, found, rfl⟩ := Option.map_eq_some_iff.mp taken
      have vouched := invariant.sockets _ (List.mem_of_getElem? found)
      exact advances_newSession invariant vouched trivial
  | handleWebRTCSession client authToken =>
      obtain ⟨admission, admitted, rfl⟩ := Option.map_eq_some_iff.mp taken
      exact advances_newSession invariant (invariant.vouched_admissionOf admitted)
        trivial
  | register session =>
      simp only [step] at taken
      split at taken
      case h_1 admission found =>
        obtain rfl := Option.some.inj taken
        exact advances_register invariant found
      case h_2 => cases taken
  | close session =>
      obtain rfl := Option.some.inj taken
      exact advances_close invariant session trivial
  | kickSnapshot => exact advances_kickSnapshot invariant taken
  | kickClose kick =>
      simp only [step] at taken
      split at taken
      case h_1 snapshot session remaining found =>
        obtain rfl := Option.some.inj taken
        exact advances_kickClose invariant found
      case h_2 => cases taken
  | kickRotate kick newUUID =>
      simp only [step] at taken
      split at taken
      case h_2 => cases taken
      case h_1 snapshot found =>
        split at taken
        case isFalse => cases taken
        case isTrue fresh =>
          obtain rfl := Option.some.inj taken
          refine ⟨invariant.revoke fresh (rotateShareToken_rotates _ _)
            (rotateShareToken_issued invariant)
            (fun _ listed => List.mem_of_mem_eraseIdx listed), fun _ => ?_⟩
          rw [effective_kickRotate_iff invariant found]
          exact revocationHolds_revoked_iff invariant rfl rfl rfl
  | setSharingPassword password call =>
      simp only [step] at taken
      split at taken
      case isFalse refused =>
        obtain rfl := Option.some.inj taken
        exact advances_of_frame invariant
          (fun stores => absurd stores refused)
          (fun _ listed => .inl listed) (fun _ logged => logged)
      case isTrue stores =>
        split at taken
        case isFalse => cases taken
        case isTrue fresh =>
          obtain rfl := Option.some.inj taken
          have rotated := (@rpcSetSharingPassword_rotates state.server call
            password stores).imp_left And.left
          have issued := @rpcSetSharingPassword_issued state.server call password
            stores state.issued
          by_cases same : password = state.sharingPassword
          · simp only [if_pos same]
            exact advances_of_frame (invariant.renew fresh rotated issued)
              (fun _ changed => absurd same changed)
              (fun _ listed => .inl listed) (fun _ logged => logged)
          · simp only [if_neg same]
            refine ⟨invariant.revoke fresh rotated issued (fun _ listed => listed),
              fun _ => ?_⟩
            refine Iff.trans (revocationHolds_revoked_iff invariant ?_ ?_ ?_) ?_
            · rfl
            · rfl
            · rfl
            exact ⟨fun none _ _ => none, fun effective => effective stores same⟩

/-- From any configuration at boot, the runs in which every revocation holds
are exactly those whose steps are all effective. -/
theorem revocationHolds_iff_effective (config : Config) (sharingPassword : String)
    (labels : List Label) :
    AllStates step State.RevocationHolds
        { server := { config := config }, sharingPassword := sharingPassword }
        labels ↔
      AllSteps step Effective
        { server := { config := config }, sharingPassword := sharingPassword }
        labels := by
  have initial := Invariant.initial config sharingPassword
  refine allStates_iff_allSteps_of_invariant ?_ ?_ initial nofun labels
  · intro state next label invariant taken
    exact (advances_of_step invariant taken).1
  · intro state next label invariant revoked taken
    exact (advances_of_step invariant taken).2 revoked

/-- A call of a guest who knows the sharing password. -/
def guestCall : Call where
  clientIP := "192.168.1.7"
  checked := 1
  recorded := 1
  compareHashAndPassword := fun _ _ => true
  generateFromPassword := .error "not reached"
  newUUID := "not reached"
  saveConfig := .ok ()

/-- A guest logs in and connects, all clients are kicked, and the guest sends
another offer on the open socket. -/
def offerAfterKick : List Label :=
  [.checkSharingPassword 0 guestCall (some "guest"), .issueShareToken 0 "t1",
    .handleLocalWebRTCSignal 0 none, .kickSnapshot, .kickRotate 0 "t2",
    .handleSessionRequest 0, .register 0]

theorem offer_after_kick_is_accepted :
    ¬ AllStates step State.RevocationHolds
      { server :=
          { config :=
              { localAuthMode := "password"
                hashedPassword := "hash"
                sharingPasswordHash := "guest hash" } }
        sharingPassword := "guest" } offerAfterKick := by
  intro holds
  have last := holds.last rfl
  have logged := last ⟨⟨0, .guest, 0, false⟩, .registered⟩ (.head _) rfl rfl
  cases logged

end GuestRevocation

end JetKvm
