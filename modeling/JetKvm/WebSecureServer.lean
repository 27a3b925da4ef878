import JetKvm.LabelledRuns
import Mathlib.Tactic.SplitIfs

/-!
# The HTTPS server

Translation of `setTLSState` and of the goroutines of `web_tls.go`.  Calls start
and stop the server through two unbuffered channels and a flag.  A goroutine
that serves holds `tlsServiceLock`; the goroutine it leaves to stop its server
goes on to receive from the channel after the server is gone.

A step is a test or an assignment of the flag, a rendezvous on a channel, or a
step of a server; the configured mode is changed as a call begins.
-/

namespace JetKvm

namespace WebSecure

open LabelledRuns

/-- What `runWebSecureServer` does next -/
inductive Phase where
  | setStarted
  | spawnStopper
  | listen
  | serving
  | clearStarted
  | unlock
  deriving DecidableEq, Repr

/-- The server of the goroutine that holds `tlsServiceLock`; `closed` tells that
it was shut down before it listened. -/
structure Server where
  id : Nat
  phase : Phase := .setStarted
  closed : Bool := false
  deriving DecidableEq, Repr

/-- How many calls are at each point; `waiting` are the goroutines that wait for
the lock, and `stoppers` those that range over `stopTLS`. -/
structure State where
  tlsMode : String
  tlsStarted : Bool := false
  testingStart : Nat := 0
  sendingStart : Nat := 0
  testingStop : Nat := 0
  sendingStop : Nat := 0
  waiting : Nat := 0
  server : Option Server := none
  stoppers : List Nat := []
  shuttingDown : List Nat := []
  servers : Nat := 0
  deriving DecidableEq, Repr

inductive Label where
  | setTLSState (mode : String) (certificateOk : Bool)
  | testStart
  | sendStart
  | testStop
  | sendStop (id : Nat)
  | lock
  | serve
  | shutdown (id : Nat)
  deriving DecidableEq, Repr

namespace State

/-- A call up to `startWebSecureServer` or `stopWebSecureServer` -/
def setTLSState (state : State) (mode : String) (certificateOk : Bool) : State :=
  if mode = "disabled" then
    { state with
      tlsMode := ""
      testingStop :=
        if state.tlsMode ≠ "" then state.testingStop + 1
        else state.testingStop }
  else if mode = "custom" ∧ certificateOk ∨ mode = "self-signed" then
    { state with
      tlsMode := mode
      testingStart :=
        if state.tlsMode = "" then state.testingStart + 1
        else state.testingStart }
  else state

def atPhase (state : State) (server : Server) (phase : Phase) : State :=
  { state with server := some { server with phase := phase } }

/-- `ListenAndServeTLS` returns when the server is shut down. -/
def serve (state : State) (server : Server) : Option State :=
  match server.phase with
  | .setStarted =>
      some { state.atPhase server .spawnStopper with tlsStarted := true }
  | .spawnStopper =>
      some { state.atPhase server .listen with
        stoppers := server.id :: state.stoppers }
  | .listen =>
      some (state.atPhase server
        (if server.closed then .clearStarted else .serving))
  | .serving => none
  | .clearStarted =>
      some { state.atPhase server .unlock with tlsStarted := false }
  | .unlock => some { state with server := none }

/-- A server that is gone is shut down without effect. -/
def shutdown (server : Server) (id : Nat) : Server :=
  if server.id = id then
    match server.phase with
    | .setStarted => { server with closed := true }
    | .spawnStopper => { server with closed := true }
    | .listen => { server with closed := true }
    | .serving => { server with phase := .clearStarted }
    | _ => server
  else server

end State

def step (state : State) : Label → Option State
  | .setTLSState mode certificateOk =>
      some (state.setTLSState mode certificateOk)
  | .testStart =>
      if state.testingStart = 0 then none
      else
        some { state with
          testingStart := state.testingStart - 1
          sendingStart :=
            if state.tlsStarted then state.sendingStart
            else state.sendingStart + 1 }
  | .sendStart =>
      if state.sendingStart = 0 then none
      else
        some { state with
          sendingStart := state.sendingStart - 1
          waiting := state.waiting + 1 }
  | .testStop =>
      if state.testingStop = 0 then none
      else
        some { state with
          testingStop := state.testingStop - 1
          sendingStop :=
            if state.tlsStarted then state.sendingStop + 1
            else state.sendingStop }
  | .sendStop id =>
      if state.sendingStop = 0 ∨ id ∉ state.stoppers then none
      else
        some { state with
          sendingStop := state.sendingStop - 1
          stoppers := state.stoppers.erase id
          shuttingDown := id :: state.shuttingDown }
  | .lock =>
      if state.waiting = 0 ∨ state.server.isSome then none
      else
        some { state with
          waiting := state.waiting - 1
          server := some { id := state.servers }
          servers := state.servers + 1 }
  | .serve => state.server.bind state.serve
  | .shutdown id =>
      if id ∈ state.shuttingDown then
        some { state with
          shuttingDown := state.shuttingDown.erase id
          stoppers := id :: state.stoppers
          server := state.server.map fun server => State.shutdown server id }
      else none

/-- `main` starts the server where the configuration asks for it. -/
def initial (tlsMode : String) : State :=
  { tlsMode := tlsMode, testingStart := if tlsMode ≠ "" then 1 else 0 }

/-- The server is listening. -/
def Listening (state : State) : Prop :=
  ∃ server ∈ state.server, server.phase = .serving

/-- No call and no goroutine can go on. -/
def Settled (state : State) : Prop :=
  ∀ label, (∀ mode certificateOk, label ≠ .setTLSState mode certificateOk) →
    step state label = none

/-- Every call has returned. -/
def Returned (state : State) : Prop :=
  state.testingStart = 0 ∧ state.sendingStart = 0 ∧ state.testingStop = 0 ∧
    state.sendingStop = 0

/-- Once everything has settled, no call is blocked, the server listens exactly
if the mode asks for it, and no other waits to. -/
def FollowsSetting (state : State) : Prop :=
  Settled state → Returned state ∧
    (Listening state ↔ state.tlsMode ≠ "") ∧ state.waiting = 0

/-- The server has set the flag, and nobody has gone on to shut it down. -/
def Stoppable (state : State) : Prop :=
  state.tlsStarted = true ∧ state.sendingStop = 0 ∧ state.shuttingDown = [] ∧
    ∃ server ∈ state.server,
      server.closed = false ∧ server.phase ≠ .clearStarted

/-- The last server has cleared the flag, and nobody has gone on to start one. -/
def Startable (state : State) : Prop :=
  state.tlsStarted = false ∧ state.sendingStart = 0 ∧ state.waiting = 0 ∧
    ∀ server ∈ state.server, server.phase ≠ .setStarted

/-- A call tests the flag when the flag tells what is to come, and a stop reaches
the goroutine of the server that serves. -/
def InTurn (state : State) : Label → Prop
  | .testStart => Startable state
  | .testStop => Stoppable state
  | .sendStop id => ∃ server ∈ state.server, server.id = id
  | _ => True

/-! ### What was decided -/

/-- The server has not been shut down. -/
def Server.alive (server : Server) : Bool :=
  !server.closed && server.phase ≠ .clearStarted && server.phase ≠ .unlock

/-- The flag is set. -/
def Phase.flagged : Phase → Bool
  | .setStarted => false
  | .unlock => false
  | _ => true

/-- The goroutine that stops the server was started. -/
def Phase.stoppable : Phase → Bool
  | .setStarted => false
  | .spawnStopper => false
  | _ => true

def alive (state : State) : Nat :=
  (state.server.elim false Server.alive).toNat

/-- Stops that were decided and have not reached a server -/
def stopping (state : State) : Nat :=
  state.sendingStop + state.shuttingDown.length

/-- The starts and stops that were decided balance with the mode; one server at
most is up or to be started, and only that one is stopped. -/
structure Invariant (state : State) : Prop where
  balance : state.testingStart + state.sendingStart + state.waiting +
      alive state =
    state.testingStop + stopping state + (decide (state.tlsMode ≠ "")).toNat
  one : state.sendingStart + state.waiting + alive state ≤ 1
  stops : stopping state ≤ alive state
  flag : state.tlsStarted = state.server.elim false (·.phase.flagged)
  early : ∀ server ∈ state.server, server.phase = .setStarted →
    stopping state = 0
  mine : ∀ id ∈ state.shuttingDown, ∃ server ∈ state.server, server.id = id
  served : ∀ server ∈ state.server, server.phase = .serving →
    server.closed = false
  stopper : ∀ server ∈ state.server, server.phase.stoppable = true →
    server.id ∈ state.stoppers ∨ server.id ∈ state.shuttingDown

theorem Invariant.initial (tlsMode : String) : Invariant (initial tlsMode) := by
  constructor
  · by_cases off : tlsMode = ""
    · simp [WebSecure.initial, off, alive, stopping]
    · simp [WebSecure.initial, off, alive, stopping]
  all_goals simp [WebSecure.initial, alive, stopping]

section Steps

variable {state next : State}

theorem Invariant.setTLSState (invariant : Invariant state) (mode : String)
    (certificateOk : Bool) :
    Invariant (state.setTLSState mode certificateOk) := by
  obtain ⟨balance, one, stops, flag, early, mine, served, stopper⟩ := invariant
  rw [State.setTLSState]
  by_cases disabling : mode = "disabled"
  · rw [if_pos disabling]
    refine ⟨?_, one, stops, flag, early, mine, served, stopper⟩
    by_cases off : state.tlsMode = ""
    · simp [off, alive, stopping] at balance ⊢
      omega
    · simp [off, alive, stopping] at balance ⊢
      omega
  rw [if_neg disabling]
  by_cases enabling : mode = "custom" ∧ certificateOk ∨ mode = "self-signed"
  · rw [if_pos enabling]
    refine ⟨?_, one, stops, flag, early, mine, served, stopper⟩
    have on : mode ≠ "" := by
      rintro rfl
      simp at enabling
    by_cases off : state.tlsMode = ""
    · simp [off, on, alive, stopping] at balance ⊢
      omega
    · simp [off, on, alive, stopping] at balance ⊢
      omega
  · rw [if_neg enabling]
    exact ⟨balance, one, stops, flag, early, mine, served, stopper⟩

/-- A start that is decided finds no server. -/
theorem Invariant.alive_of_startable (invariant : Invariant state)
    (startable : Startable state) : alive state = 0 := by
  obtain ⟨notStarted, -, -, early⟩ := startable
  have flag := invariant.flag
  rw [notStarted] at flag
  rw [alive]
  cases held : state.server with
  | none => rfl
  | some server =>
      have notEarly := early server held
      rw [held] at flag
      cases phase : server.phase with
      | setStarted => exact absurd phase notEarly
      | unlock => simp [Server.alive, phase]
      | _ => simp [phase, Phase.flagged] at flag

/-- A stop that is decided finds a server. -/
theorem Invariant.alive_of_stoppable (invariant : Invariant state)
    (isStoppable : Stoppable state) :
    alive state = 1 ∧
      ∀ server ∈ state.server, server.phase ≠ .setStarted := by
  obtain ⟨started, -, -, server, held, notClosed, notClearing⟩ := isStoppable
  have flag := invariant.flag
  rw [started, held] at flag
  rw [alive, held]
  constructor
  · cases phase : server.phase with
    | unlock => simp [phase, Phase.flagged] at flag
    | clearStarted => exact absurd phase notClearing
    | _ => simp [Server.alive, phase, notClosed]
  · rintro other ⟨⟩ isEarly
    simp [isEarly, Phase.flagged] at flag

theorem Invariant.testStart (invariant : Invariant state)
    (startable : Startable state)
    (taken : step state .testStart = some next) : Invariant next := by
  have gone := invariant.alive_of_startable startable
  obtain ⟨notStarted, notSending, notWaiting, -⟩ := startable
  obtain ⟨balance, one, stops, flag, early, mine, served, stopper⟩ := invariant
  simp only [step, Option.ite_none_left_eq_some] at taken
  obtain ⟨some, same⟩ := taken
  cases same
  rw [notStarted, if_neg Bool.false_ne_true]
  refine ⟨?_, ?_, stops, notStarted ▸ flag, early, mine, served, stopper⟩
  · simp only [alive, stopping] at balance ⊢
    omega
  · simp only [alive] at gone ⊢
    omega

theorem Invariant.sendStart (invariant : Invariant state)
    (taken : step state .sendStart = some next) : Invariant next := by
  obtain ⟨balance, one, stops, flag, early, mine, served, stopper⟩ := invariant
  simp only [step, Option.ite_none_left_eq_some] at taken
  obtain ⟨some, same⟩ := taken
  cases same
  refine ⟨?_, ?_, stops, flag, early, mine, served, stopper⟩
  · simp only [alive, stopping] at balance ⊢
    omega
  · simp only [alive] at one ⊢
    omega

theorem Invariant.testStop (invariant : Invariant state)
    (isStoppable : Stoppable state)
    (taken : step state .testStop = some next) : Invariant next := by
  obtain ⟨up, notEarly⟩ := invariant.alive_of_stoppable isStoppable
  obtain ⟨started, notSending, notShutting, -⟩ := isStoppable
  obtain ⟨balance, one, stops, flag, early, mine, served, stopper⟩ := invariant
  simp only [step, Option.ite_none_left_eq_some] at taken
  obtain ⟨some, same⟩ := taken
  cases same
  rw [started, if_pos rfl]
  refine ⟨?_, one, ?_, started ▸ flag, ?_, mine, served, stopper⟩
  · simp only [alive, stopping] at balance ⊢
    omega
  · simp only [alive, stopping, notSending, notShutting] at up ⊢
    rw [up]
    exact Nat.le_refl 1
  · intro server held isEarly
    exact absurd isEarly (notEarly server held)

theorem Invariant.sendStop (invariant : Invariant state) {id : Nat}
    (toServer : ∃ server ∈ state.server, server.id = id)
    (taken : step state (.sendStop id) = some next) : Invariant next := by
  obtain ⟨balance, one, stops, flag, early, mine, served, stopper⟩ := invariant
  simp only [step, Option.ite_none_left_eq_some, not_or, not_not] at taken
  obtain ⟨⟨some, ranging⟩, same⟩ := taken
  cases same
  have sameStopping : state.sendingStop - 1 + (id :: state.shuttingDown).length =
      stopping state := by
    rw [stopping, List.length_cons]
    omega
  refine ⟨?_, one, ?_, flag, ?_, ?_, served, ?_⟩
  · rw [stopping, sameStopping]
    exact balance
  · rw [stopping, sameStopping]
    exact stops
  · rw [stopping, sameStopping]
    exact early
  · exact List.forall_mem_cons.mpr ⟨toServer, mine⟩
  · intro server held isStoppable
    obtain ⟨other, sameServer, rfl⟩ := toServer
    cases Option.some.inj (held.symm.trans sameServer)
    exact Or.inr List.mem_cons_self

theorem Invariant.lock (invariant : Invariant state)
    (taken : step state .lock = some next) : Invariant next := by
  obtain ⟨balance, one, stops, flag, early, mine, served, stopper⟩ := invariant
  simp only [step, Option.ite_none_left_eq_some, not_or,
    Option.not_isSome_iff_eq_none] at taken
  obtain ⟨⟨some, free⟩, same⟩ := taken
  cases same
  have down : alive state = 0 := by rw [alive, free]; rfl
  have quiet : stopping state = 0 := by omega
  rw [free] at flag
  constructor
  · change state.testingStart + state.sendingStart + (state.waiting - 1) + 1 =
      state.testingStop + stopping state + (decide (state.tlsMode ≠ "")).toNat
    omega
  · change state.sendingStart + (state.waiting - 1) + 1 ≤ 1
    omega
  · change stopping state ≤ 1
    omega
  · exact flag
  · intro _ _ _
    exact quiet
  · intro id member
    have some : 0 < state.shuttingDown.length := List.length_pos_of_mem member
    rw [stopping] at quiet
    omega
  · rintro server ⟨⟩ isServing
    cases isServing
  · rintro server ⟨⟩ isStoppable
    cases isStoppable

/-- The server goes on, neither up nor down. -/
theorem Invariant.move (invariant : Invariant state) {server : Server}
    (held : state.server = some server) (phase : Phase) (tlsStarted : Bool)
    (stoppers : List Nat)
    (sameAlive : { server with phase := phase }.alive = server.alive)
    (flagged : tlsStarted = phase.flagged) (late : phase ≠ .setStarted)
    (serves : phase = .serving → server.closed = false)
    (stopped : phase.stoppable = true →
      server.id ∈ stoppers ∨ server.id ∈ state.shuttingDown) :
    Invariant { state with
      server := some { server with phase := phase }
      tlsStarted := tlsStarted
      stoppers := stoppers } := by
  obtain ⟨balance, one, stops, flag, early, mine, served, stopper⟩ := invariant
  have same : alive { state with
      server := some { server with phase := phase }
      tlsStarted := tlsStarted
      stoppers := stoppers } = alive state := by
    rw [alive, alive, held]
    exact congrArg Bool.toNat sameAlive
  refine ⟨?_, ?_, ?_, flagged, ?_, ?_, ?_, ?_⟩
  · rw [same]
    exact balance
  · rw [same]
    exact one
  · rw [same]
    exact stops
  · rintro other ⟨⟩ isEarly
    exact absurd isEarly late
  · intro id member
    obtain ⟨other, sameServer, rfl⟩ := mine id member
    cases Option.some.inj (held.symm.trans sameServer)
    exact ⟨_, rfl, rfl⟩
  · rintro other ⟨⟩ isServing
    exact serves isServing
  · rintro other ⟨⟩ isStoppable
    exact stopped isStoppable

theorem Invariant.serve (invariant : Invariant state)
    (taken : step state .serve = some next) : Invariant next := by
  obtain ⟨server, held, taken⟩ := Option.bind_eq_some_iff.mp taken
  have flag := invariant.flag
  have spawned := invariant.stopper server held
  rw [held] at flag
  cases phase : server.phase with
  | setStarted =>
      simp only [State.serve, phase] at taken
      cases taken
      have sameAlive : { server with phase := .spawnStopper }.alive =
          server.alive := by simp [Server.alive, phase]
      exact invariant.move held .spawnStopper true state.stoppers sameAlive rfl
        (by decide) nofun nofun
  | spawnStopper =>
      simp only [State.serve, phase] at taken
      cases taken
      simp only [Option.elim_some, phase] at flag
      have sameAlive : { server with phase := .listen }.alive =
          server.alive := by simp [Server.alive, phase]
      exact invariant.move held .listen state.tlsStarted
        (server.id :: state.stoppers) sameAlive flag (by decide) nofun
        fun _ => .inl List.mem_cons_self
  | listen =>
      simp only [State.serve, phase] at taken
      cases taken
      simp only [Option.elim_some, phase] at flag
      rw [phase] at spawned
      cases closed : server.closed with
      | true =>
          have sameAlive : { server with phase := .clearStarted }.alive =
              server.alive := by simp [Server.alive, closed]
          exact invariant.move held .clearStarted state.tlsStarted state.stoppers
            sameAlive flag (by decide) nofun fun _ => spawned rfl
      | false =>
          have sameAlive : { server with phase := .serving }.alive =
              server.alive := by simp [Server.alive, phase]
          exact invariant.move held .serving state.tlsStarted state.stoppers
            sameAlive flag (by decide) (fun _ => closed) fun _ => spawned rfl
  | serving =>
      simp only [State.serve, phase] at taken
      cases taken
  | clearStarted =>
      simp only [State.serve, phase] at taken
      cases taken
      rw [phase] at spawned
      have sameAlive : { server with phase := .unlock }.alive =
          server.alive := by simp [Server.alive, phase]
      exact invariant.move held .unlock false state.stoppers sameAlive rfl
        (by decide) nofun fun _ => spawned rfl
  | unlock =>
      simp only [State.serve, phase] at taken
      cases taken
      obtain ⟨balance, one, stops, -, early, mine, served, stopper⟩ := invariant
      have down : alive state = 0 := by
        simp [alive, held, Server.alive, phase]
      simp only [Option.elim_some, phase] at flag
      rw [down] at balance one stops
      refine ⟨balance, one, stops, flag, nofun, ?_, nofun, nofun⟩
      intro id member
      have some : 0 < state.shuttingDown.length := List.length_pos_of_mem member
      rw [stopping] at stops
      omega

/-- What shutting a server down does to it -/
theorem shutdown_spec {server : Server} (up : server.alive = true)
    (late : server.phase ≠ .setStarted) :
    (State.shutdown server server.id).id = server.id ∧
      (State.shutdown server server.id).alive = false ∧
      (State.shutdown server server.id).phase.flagged =
        server.phase.flagged ∧
      (State.shutdown server server.id).phase ≠ .setStarted ∧
      (State.shutdown server server.id).phase ≠ .serving := by
  rw [State.shutdown, if_pos rfl]
  cases phase : server.phase with
  | setStarted => exact absurd phase late
  | spawnStopper => simp [Server.alive]
  | listen => simp [Server.alive]
  | serving => simp [Server.alive, Phase.flagged]
  | clearStarted => simp [Server.alive, phase] at up
  | unlock => simp [Server.alive, phase] at up

theorem Invariant.shutdown (invariant : Invariant state) {id : Nat}
    (taken : step state (.shutdown id) = some next) : Invariant next := by
  obtain ⟨balance, one, stops, flag, early, mine, served, stopper⟩ := invariant
  simp only [step] at taken
  split_ifs at taken with member
  cases taken
  obtain ⟨server, held, rfl⟩ := mine id member
  have some : 0 < state.shuttingDown.length := List.length_pos_of_mem member
  have counted := List.length_erase_of_mem member
  have up : server.alive = true := by
    by_contra down
    have none : alive state = 0 := by
      rw [alive, held]
      exact congrArg Bool.toNat (Bool.eq_false_iff.mpr down)
    rw [stopping] at stops
    omega
  have alone : alive state = 1 := by
    rw [alive, held]
    exact congrArg Bool.toNat up
  have late : server.phase ≠ .setStarted := by
    intro isEarly
    have none := early server held isEarly
    rw [stopping] at none
    omega
  obtain ⟨sameId, down, sameFlag, notEarly, notServing⟩ := shutdown_spec up late
  rw [held] at flag
  rw [held, Option.map_some]
  have quiet : state.sendingStop +
      (state.shuttingDown.erase server.id).length = 0 := by
    rw [stopping] at stops
    omega
  have gone : (State.shutdown server server.id).alive.toNat = 0 := by
    rw [down]
    rfl
  refine ⟨?_, ?_, ?_, flag.trans sameFlag.symm, ?_, ?_, ?_, ?_⟩
  · change state.testingStart + state.sendingStart + state.waiting +
        (State.shutdown server server.id).alive.toNat =
      state.testingStop +
        (state.sendingStop + (state.shuttingDown.erase server.id).length) +
        (decide (state.tlsMode ≠ "")).toNat
    rw [stopping] at balance
    omega
  · change state.sendingStart + state.waiting +
      (State.shutdown server server.id).alive.toNat ≤ 1
    omega
  · exact Nat.le_of_eq (quiet.trans gone.symm)
  · intro _ _ _
    exact quiet
  · intro other inside
    have some : 0 < (state.shuttingDown.erase server.id).length :=
      List.length_pos_of_mem inside
    omega
  · rintro other ⟨⟩ isServing
    exact absurd isServing notServing
  · rintro other ⟨⟩ _
    rw [sameId]
    exact Or.inl List.mem_cons_self

theorem Invariant.step (invariant : Invariant state) {label : Label}
    (inTurn : InTurn state label)
    (taken : WebSecure.step state label = some next) : Invariant next := by
  cases label with
  | setTLSState mode certificateOk =>
      cases taken
      exact invariant.setTLSState mode certificateOk
  | testStart => exact invariant.testStart inTurn taken
  | sendStart => exact invariant.sendStart taken
  | testStop => exact invariant.testStop inTurn taken
  | sendStop id => exact invariant.sendStop inTurn taken
  | lock => exact invariant.lock taken
  | serve => exact invariant.serve taken
  | shutdown id => exact invariant.shutdown taken

/-! ### Settled states -/

/-- What has settled: a call can be blocked only where no goroutine ranges over
the channel, and a server only while it serves. -/
theorem settled_iff :
    Settled state ↔
      state.testingStart = 0 ∧ state.sendingStart = 0 ∧
        state.testingStop = 0 ∧
        (state.sendingStop = 0 ∨ state.stoppers = []) ∧
        state.shuttingDown = [] ∧
        (state.waiting = 0 ∨ state.server.isSome = true) ∧
        ∀ server ∈ state.server, server.phase = .serving := by
  constructor
  · intro settled
    have noTestStart := settled .testStart nofun
    have noSendStart := settled .sendStart nofun
    have noTestStop := settled .testStop nofun
    have noLock := settled .lock nofun
    have noServe := settled .serve nofun
    simp only [step, ite_eq_left_iff, reduceCtorEq, imp_false,
      not_not] at noTestStart noSendStart noTestStop noLock
    refine ⟨noTestStart, noSendStart, noTestStop, ?_, ?_, noLock, ?_⟩
    · cases ranging : state.stoppers with
      | nil => exact .inr rfl
      | cons id rest =>
          have noSendStop := settled (.sendStop id) nofun
          simp only [step, ite_eq_left_iff, reduceCtorEq, imp_false,
            not_not] at noSendStop
          rw [ranging] at noSendStop
          exact .inl (noSendStop.resolve_right fun out => out List.mem_cons_self)
    · apply List.eq_nil_iff_forall_not_mem.mpr
      intro id member
      have noShutdown := settled (.shutdown id) nofun
      rw [step, if_pos member] at noShutdown
      cases noShutdown
    · intro server held
      rw [step, held] at noServe
      cases phase : server.phase with
      | serving => rfl
      | _ => simp [State.serve, phase] at noServe
  · rintro ⟨noTestStart, noSendStart, noTestStop, unheard, noShutdown, unlocked,
      serving⟩ label isInternal
    cases label with
    | setTLSState mode certificateOk => exact absurd rfl (isInternal mode certificateOk)
    | testStart => rw [step, if_pos noTestStart]
    | sendStart => rw [step, if_pos noSendStart]
    | testStop => rw [step, if_pos noTestStop]
    | sendStop id =>
        rw [step, if_pos]
        rcases unheard with none | none
        · exact .inl none
        · exact .inr (by rw [none]; exact List.not_mem_nil)
    | lock => rw [step, if_pos unlocked]
    | serve =>
        rw [step]
        cases held : state.server with
        | none => rfl
        | some server => simp [State.serve, serving server held]
    | shutdown id =>
        rw [step, noShutdown]
        rfl

theorem Invariant.followsSetting (invariant : Invariant state) :
    FollowsSetting state := by
  obtain ⟨balance, one, stops, flag, early, mine, served, stopper⟩ := invariant
  intro settled
  obtain ⟨noTestStart, noSendStart, noTestStop, unheard, noShutdown, unlocked,
    serving⟩ := settled_iff.mp settled
  rw [stopping, noShutdown, List.length_nil] at balance stops
  cases held : state.server with
  | none =>
      have down : alive state = 0 := by rw [alive, held]; rfl
      have noWaiting : state.waiting = 0 := by
        rw [held] at unlocked
        exact unlocked.resolve_right nofun
      have off : state.tlsMode = "" := by
        by_contra on
        simp only [decide_eq_true on, Bool.toNat_true] at balance
        omega
      refine ⟨⟨noTestStart, noSendStart, noTestStop, by omega⟩, ?_, noWaiting⟩
      refine iff_of_false ?_ fun on => on off
      rintro ⟨server, same, -⟩
      rw [held] at same
      cases same
  | some server =>
      have isServing := serving server held
      have up : alive state = 1 := by
        rw [alive, held]
        simp [Server.alive, isServing, served server held isServing]
      have noStop : state.sendingStop = 0 := by
        apply unheard.resolve_right
        intro none
        have ranging := stopper server held (by rw [isServing]; rfl)
        rw [none, noShutdown] at ranging
        exact ranging.elim List.not_mem_nil List.not_mem_nil
      have on : state.tlsMode ≠ "" := by
        intro off
        simp only [off, ne_eq, not_true, decide_false, Bool.toNat_false] at balance
        omega
      refine ⟨⟨noTestStart, noSendStart, noTestStop, noStop⟩, ?_, by omega⟩
      exact iff_of_true ⟨server, held, isServing⟩ on

end Steps

/-! ### Runs -/

theorem followsSetting_of_inTurn (tlsMode : String) (labels : List Label)
    (inTurn : AllSteps step InTurn (initial tlsMode) labels) :
    AllStates step FollowsSetting (initial tlsMode) labels := by
  have everywhere : AllStates step Invariant (initial tlsMode) labels :=
    allStates_of_allSteps
      (fun invariant here taken => Invariant.step invariant here taken)
      (Invariant.initial tlsMode) inTurn
  exact everywhere.mono fun _ invariant => invariant.followsSetting

/-- From the test of the flag until the server listens -/
def starts : List Label :=
  [.testStart, .sendStart, .lock, .serve, .serve, .serve]

/-- From the test of the flag until the goroutine that served has ended; the stop
reaches the goroutine of the server with the number. -/
def stops (id : Nat) : List Label :=
  [.testStop, .sendStop id, .shutdown id, .serve, .serve]

theorem starts_followsSetting :
    AllStates step FollowsSetting (initial "custom")
      (starts ++ .setTLSState "disabled" true :: stops 0) := by
  apply followsSetting_of_inTurn
  apply allSteps_cons_of_step rfl ⟨rfl, rfl, rfl, nofun⟩
  apply allSteps_cons_of_step rfl trivial
  apply allSteps_cons_of_step rfl trivial
  apply allSteps_cons_of_step rfl trivial
  apply allSteps_cons_of_step rfl trivial
  apply allSteps_cons_of_step rfl trivial
  -- the server listens; a call stops it
  apply allSteps_cons_of_step rfl trivial
  apply allSteps_cons_of_step rfl ⟨rfl, rfl, rfl, _, rfl, rfl, nofun⟩
  apply allSteps_cons_of_step rfl ⟨_, rfl, rfl⟩
  apply allSteps_cons_of_step rfl trivial
  apply allSteps_cons_of_step rfl trivial
  apply allSteps_cons_of_step rfl trivial
  trivial

/-- The second stop reaches the goroutine of the first server. -/
def secondCycle : List Label :=
  starts ++ [.setTLSState "disabled" true] ++ stops 0 ++
    [.setTLSState "self-signed" true] ++ starts ++
    [.setTLSState "disabled" true, .testStop, .sendStop 0, .shutdown 0]

/-- Where the second server is left -/
def stillListening : State where
  tlsMode := ""
  tlsStarted := true
  server := some { id := 1, phase := .serving }
  stoppers := [0, 1]
  servers := 2

theorem secondCycle_not_followsSetting :
    ¬ ∀ (tlsMode : String) (labels : List Label),
      AllStates step FollowsSetting (initial tlsMode) labels := by
  intro all
  have reaches : exec step (initial "self-signed") secondCycle =
      some stillListening := by decide
  have follows := (all "self-signed" secondCycle).last reaches
  have settled : Settled stillListening := by
    refine settled_iff.mpr ⟨rfl, rfl, rfl, .inl rfl, rfl, .inl rfl, ?_⟩
    rintro server ⟨⟩
    rfl
  have listening : Listening stillListening := ⟨_, rfl, rfl⟩
  exact (follows settled).2.1.mp listening rfl

end WebSecure

end JetKvm
