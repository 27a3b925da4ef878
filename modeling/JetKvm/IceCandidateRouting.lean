import JetKvm.LabelledRuns
import Mathlib.Data.List.Nodup

/-!
# Routing of ICE candidates to sessions

Every signalling WebSocket runs `handleWebRTCSignalWsMessages`.  An offer that
is accepted, there or over HTTP, stores its session in the process-wide
`currentSession`; a candidate received on any WebSocket is added to whatever
session is stored there; and a closed session clears it if it is its own.  A
step is one message, or the close of one session.
-/

namespace JetKvm

namespace Signalling

open LabelledRuns

/-- An accepted session: the WebSocket of its offer, if it has one, and the
candidates added to its peer connection. -/
structure Session where
  id : Nat
  ws : Option Nat
  isOpen : Bool := true
  candidates : List String := []
  deriving DecidableEq, Repr

/-- The accepted sessions, the latest first, and the id in `currentSession`. -/
structure State where
  sessions : List Session := []
  currentSession : Option Nat := none
  deriving DecidableEq, Repr

/-- An offer is on a WebSocket or, without one, over HTTP; its error is that of
`authenticateSession`, `newSession` or `ExchangeOffer`. -/
inductive Label where
  | offer (ws : Option Nat) (error : Option String)
  | newIceCandidate (ws : Nat) (candidate : String)
  | close (id : Nat)
  deriving DecidableEq, Repr

def State.updateSession (state : State) (id : Nat)
    (update : Session → Session) : State :=
  { state with
    sessions := state.sessions.map fun session =>
      if session.id = id then update session else session }

def handleSessionRequest (state : State) (ws : Option Nat)
    (error : Option String) : State :=
  match error with
  | some _ => state
  | none =>
      let id := state.sessions.length
      { sessions := { id := id, ws := ws } :: state.sessions
        currentSession := some id }

/-- The session a candidate is added to. -/
def receiver (state : State) (candidate : String) : Option Nat :=
  if candidate = "" then none else state.currentSession

def handleNewIceCandidate (state : State) (candidate : String) : State :=
  match receiver state candidate with
  | none => state
  | some id =>
      state.updateSession id fun session =>
        { session with candidates := session.candidates ++ [candidate] }

def Session.close (session : Session) : Session :=
  { session with isOpen := false }

def handleClosed (state : State) (id : Nat) : State :=
  let closed := state.updateSession id Session.close
  if state.currentSession = some id then
    { closed with currentSession := none }
  else closed

def step (state : State) : Label → Option State
  | .offer ws error => some (handleSessionRequest state ws error)
  | .newIceCandidate _ candidate => some (handleNewIceCandidate state candidate)
  | .close id => some (handleClosed state id)

/-- The session of the latest accepted offer on a WebSocket. -/
def latestOn (state : State) (ws : Nat) : Option Session :=
  state.sessions.find? fun session => session.ws = some ws

/-- A candidate is added only to the latest session of its own WebSocket, and
it is added there while that session is open. -/
def RoutedToOwnSession (state : State) : Label → Prop
  | .newIceCandidate ws candidate =>
      candidate ≠ "" →
        (∀ id, receiver state candidate = some id →
          ∃ session, latestOn state ws = some session ∧ session.id = id) ∧
        ∀ session, latestOn state ws = some session → session.isOpen = true →
          receiver state candidate = some session.id
  | _ => True

/-- When a candidate arrives, the session accepted last on the device is one
of the same WebSocket, or it is closed and so is the latest session of the
WebSocket. -/
def Uncontested (state : State) : Label → Prop
  | .newIceCandidate ws candidate =>
      candidate ≠ "" → ∀ last, state.sessions.head? = some last →
        if last.isOpen then last.ws = some ws
        else ∀ session, latestOn state ws = some session →
          session.isOpen = false
  | _ => True

/-- The id `currentSession` holds: that of the last session while it is open. -/
def openLast : List Session → Option Nat
  | [] => none
  | last :: _ => if last.isOpen then some last.id else none

structure State.Invariant (state : State) : Prop where
  current : state.currentSession = openLast state.sessions
  distinct : (state.sessions.map (·.id)).Nodup
  fresh : ∀ session ∈ state.sessions, session.id < state.sessions.length

theorem State.Invariant.initial : State.Invariant {} where
  current := rfl
  distinct := List.nodup_nil
  fresh := nofun

section UpdateSession

variable {state : State} {id : Nat} {update : Session → Session}

theorem map_id_updateSession (keepsId : ∀ session, (update session).id = session.id) :
    (state.updateSession id update).sessions.map (·.id) =
      state.sessions.map (·.id) := by
  simp only [State.updateSession, List.map_map]
  apply List.map_congr_left
  intro session _
  by_cases same : session.id = id
  · simp [same, keepsId]
  · simp [same]

theorem fresh_updateSession
    (keepsId : ∀ session, (update session).id = session.id)
    (fresh : ∀ session ∈ state.sessions, session.id < state.sessions.length) :
    ∀ session ∈ (state.updateSession id update).sessions,
      session.id < (state.updateSession id update).sessions.length := by
  intro session member
  have sameLength : (state.updateSession id update).sessions.length =
      state.sessions.length := by
    simp [State.updateSession]
  have ids : session.id ∈ state.sessions.map (·.id) := by
    rw [← map_id_updateSession keepsId]
    exact List.mem_map_of_mem member
  obtain ⟨original, originalMem, sameId⟩ := List.mem_map.mp ids
  rw [sameLength, ← sameId]
  exact fresh original originalMem

end UpdateSession

theorem openLast_updateSession {state : State} {id : Nat}
    {update : Session → Session}
    (keepsId : ∀ session, (update session).id = session.id)
    (keepsOpen : ∀ session, (update session).isOpen = session.isOpen) :
    openLast (state.updateSession id update).sessions =
      openLast state.sessions := by
  cases accepted : state.sessions with
  | nil => simp [State.updateSession, accepted]
  | cons last rest =>
      by_cases same : last.id = id
      · simp [State.updateSession, accepted, openLast, same, keepsId, keepsOpen]
      · simp [State.updateSession, accepted, openLast, same]

theorem openLast_close (state : State) (id : Nat) :
    openLast (state.updateSession id Session.close).sessions =
      if openLast state.sessions = some id then none
      else openLast state.sessions := by
  cases accepted : state.sessions with
  | nil => simp [State.updateSession, accepted, openLast]
  | cons last rest =>
      by_cases same : last.id = id
      · simp [State.updateSession, accepted, openLast, same, Session.close]
      · simp [State.updateSession, accepted, openLast, same]

theorem State.Invariant.updateSession {state : State} {id : Nat}
    {update : Session → Session} (invariant : state.Invariant)
    (keepsId : ∀ session, (update session).id = session.id)
    (keepsOpen : ∀ session, (update session).isOpen = session.isOpen) :
    (state.updateSession id update).Invariant where
  current := by
    rw [openLast_updateSession keepsId keepsOpen]
    exact invariant.current
  distinct := by
    rw [map_id_updateSession keepsId]
    exact invariant.distinct
  fresh := fresh_updateSession keepsId invariant.fresh

theorem State.Invariant.step {state next : State} {label : Label}
    (invariant : state.Invariant) (taken : Signalling.step state label = some next) :
    next.Invariant := by
  cases label with
  | offer ws error =>
      obtain rfl := Option.some.inj taken
      cases error with
      | some error => exact invariant
      | none =>
          refine ⟨rfl, ?_, ?_⟩
          · refine List.nodup_cons.mpr ⟨fun member => ?_, invariant.distinct⟩
            obtain ⟨session, sessionMem, sameId⟩ := List.mem_map.mp member
            exact absurd sameId (Nat.ne_of_lt (invariant.fresh session sessionMem))
          · intro session member
            rcases List.mem_cons.mp member with rfl | old
            · exact Nat.lt_succ_self _
            · exact Nat.lt_succ_of_lt (invariant.fresh session old)
  | newIceCandidate ws candidate =>
      obtain rfl := Option.some.inj taken
      unfold handleNewIceCandidate
      cases receiver state candidate with
      | none => exact invariant
      | some id =>
          exact invariant.updateSession (fun _ => rfl) fun _ => rfl
  | close id =>
      obtain rfl := Option.some.inj taken
      have sameIds : (state.updateSession id Session.close).sessions.map
          (·.id) = state.sessions.map (·.id) :=
        map_id_updateSession fun _ => rfl
      have closed : State.Invariant
          { state.updateSession id Session.close with
            currentSession :=
              if state.currentSession = some id then none
              else state.currentSession } := by
        refine ⟨?_, ?_, fresh_updateSession (fun _ => rfl) invariant.fresh⟩
        · rw [openLast_close, invariant.current]
        · rw [sameIds]
          exact invariant.distinct
      unfold handleClosed
      by_cases current : state.currentSession = some id
      · rw [if_pos current] at closed ⊢
        exact closed
      · rw [if_neg current] at closed ⊢
        exact closed

theorem State.Invariant.routedToOwnSession_iff {state : State}
    (invariant : state.Invariant) (label : Label) :
    RoutedToOwnSession state label ↔ Uncontested state label := by
  cases label with
  | offer ws error => exact Iff.rfl
  | close id => exact Iff.rfl
  | newIceCandidate ws candidate =>
      refine forall_congr' fun nonempty => ?_
      have receiver_eq : receiver state candidate = openLast state.sessions := by
        rw [receiver, if_neg nonempty, invariant.current]
      rw [receiver_eq]
      cases accepted : state.sessions with
      | nil => simp [openLast, latestOn, accepted]
      | cons last rest =>
          by_cases isOpen : last.isOpen = true
          · by_cases own : last.ws = some ws
            · have latest : latestOn state ws = some last := by
                simp [latestOn, accepted, own]
              simp [openLast, isOpen, own, latest]
            · -- the latest session of the WebSocket, if any, is an earlier one
              have other : ∀ session, latestOn state ws = some session →
                  session.id ≠ last.id := by
                intro session latest sameId
                have earlier : session ∈ rest := by
                  rw [latestOn, accepted, List.find?_cons_of_neg (by simp [own])]
                    at latest
                  exact List.mem_of_find?_eq_some latest
                have distinct := invariant.distinct
                rw [accepted, List.map_cons, List.nodup_cons] at distinct
                exact distinct.1 (sameId ▸ List.mem_map_of_mem earlier)
              apply iff_of_false
              · rintro ⟨onlyOwn, -⟩
                obtain ⟨session, latest, sameId⟩ :=
                  onlyOwn last.id (by simp [openLast, isOpen])
                exact other session latest sameId
              · intro uncontested
                have isOwn := uncontested last rfl
                rw [if_pos isOpen] at isOwn
                exact own isOwn
          · simp [openLast, isOpen]

/-- The candidates go to the right sessions exactly in the runs in which no
candidate arrives while its WebSocket is contested. -/
theorem routedToOwnSession_iff_uncontested (labels : List Label) :
    AllSteps step RoutedToOwnSession {} labels ↔
      AllSteps step Uncontested {} labels :=
  allSteps_congr (fun invariant _ => invariant.step)
    (fun invariant _ => invariant.routedToOwnSession_iff _)
    State.Invariant.initial labels

/-- Two clients exchange offers, and a late candidate of the first is added to
the session of the second. -/
theorem candidate_added_to_other_session :
    ¬ AllSteps step RoutedToOwnSession {}
      [.offer (some 1) none, .offer (some 2) none,
        .newIceCandidate 1 "candidate:1 1 UDP 2130706431 192.0.2.7 50000 typ host"] := by
  intro routed
  have third := ((((routed _ rfl).2 _ rfl).2 _ rfl).1 (by decide)).1 1 rfl
  obtain ⟨session, latest, sameId⟩ := third
  cases latest
  cases sameId

end Signalling

end JetKvm
