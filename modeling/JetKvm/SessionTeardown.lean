import JetKvm.GoChannels
import JetKvm.HidRpcDispatch
import JetKvm.LabelledRuns
import JetKvm.UsbKeyboardKeysDown
import Mathlib.Data.List.Infix

/-!
# Teardown of sessions

The callbacks of the data channels and of key-state changes load a queue of a
session and send to it later; the handler of a closed ICE connection closes the
queues one by one and sets each field to nil.  Nothing orders the two.  A step
is one load, one send, one close or one assignment; a step that panics ends the
process.
-/

namespace JetKvm

namespace Teardown

open LabelledRuns UsbGadget

/-- `hidQueue[i]`, `rpcQueue` and `keysDownStateQueue`. -/
inductive Queue where
  | hid (index : Fin 4)
  | rpc
  | keysDownState
  deriving DecidableEq, Repr

inductive Item where
  | message (data : Slice UInt8)
  | keysDown (keysDown : KeysDownState)
  deriving DecidableEq, Repr

def rpcQueueSize : Nat := 256

def keysDownStateQueueSize : Nat := 64

def Queue.size : Queue → Nat
  | .hid _ => HidRpc.hidQueueSize
  | .rpc => rpcQueueSize
  | .keysDownState => keysDownStateQueueSize

/-- The queue of a message; an index outside `hidQueue` is replaced by 3. -/
def Queue.ofIndex (queueIndex : Nat) : Queue :=
  if inside : queueIndex < 4 then .hid ⟨queueIndex, inside⟩ else .hid 3

/-- The atomic steps of the handler. -/
inductive Instruction where
  | compareCurrentSession
  | clearCurrentSession
  | checkRpcQueue
  | load (queue : Queue)
  | close (queue : Queue)
  | assignNil (queue : Queue)
  deriving DecidableEq, Repr

/-- `close(queue); queue = nil` -/
def closeAndClear (queue : Queue) : List Instruction :=
  [.load queue, .close queue, .assignNil queue]

/-- What the handler does with `currentSession` and the queues. -/
def onClosed : List Instruction :=
  [.compareCurrentSession, .clearCurrentSession, .checkRpcQueue] ++
    closeAndClear .rpc ++ closeAndClear (.hid 0) ++ closeAndClear (.hid 1) ++
    closeAndClear (.hid 2) ++ closeAndClear (.hid 3) ++
    closeAndClear .keysDownState

/-- `channel` is the channel made for a queue and `assigned` says that the field
still refers to it.  `handler` is what is left of the handler's call, `loaded`
whether the field it last loaded referred to the channel, `closings` how often
it has been called. -/
structure Session where
  channel : Queue → Channel Item := fun queue => { capacity := queue.size }
  assigned : Queue → Bool := fun _ => true
  handler : List Instruction := []
  isCurrent : Bool := false
  loaded : Bool := false
  closings : Nat := 0

/-- A callback in progress: the callback of a data channel before its load and
before its send, and the callback of `SetOnKeysDownChange` before each of its
reads. -/
inductive Callback where
  | message (id : String) (queue : Queue) (data : Slice UInt8)
  | sending (id : String) (queue : Queue) (loaded : Bool) (data : Slice UInt8)
  | checkCurrentSession (keysDown : KeysDownState)
  | enqueueKeysDownState (keysDown : KeysDownState)
  | checkQueue (id : String) (keysDown : KeysDownState)
  | loadQueue (id : String) (keysDown : KeysDownState)
  | selecting (id : String) (loaded : Bool) (keysDown : KeysDownState)
  | resetKeepAliveTime
  | done
  deriving DecidableEq, Repr

structure State where
  panicked : Bool := false
  sessions : String → Option Session := fun _ => none
  currentSession : Option String := none
  callbacks : List Callback := []

/-- `iceStateChange` is a call of the ICE state handler, `handler` its next
step, `callback` the next step of a callback, and `worker` a step of the worker
of a queue. -/
inductive Label where
  | newSession (id : String)
  | setCurrentSession (id : String)
  | hidMessage (id : String) (isString : Bool) (data : Slice UInt8)
  | rpcMessage (id : String) (data : Slice UInt8)
  | keysDownChange (keysDown : KeysDownState)
  | callback (index : Nat)
  | worker (id : String) (queue : Queue)
  | iceStateChange (id : String) (closed : Bool)
  | handler (id : String)
  deriving DecidableEq, Repr

/-- The value a load of the field returns, nil or the channel. -/
def Session.reference (session : Session) (queue : Queue) (loaded : Bool) :
    Option (Channel Item) :=
  if loaded then some (session.channel queue) else none

def Session.setChannel (session : Session) (queue : Queue)
    (channel : Channel Item) : Session :=
  { session with channel := Function.update session.channel queue channel }

def State.setSession (state : State) (id : String) (session : Session) : State :=
  { state with sessions := Function.update state.sessions id (some session) }

def State.spawn (state : State) (callback : Callback) : State :=
  { state with callbacks := state.callbacks ++ [callback] }

def State.setCallback (state : State) (index : Nat) (callback : Callback) :
    State :=
  { state with callbacks := state.callbacks.set index callback }

def State.panic (state : State) : State :=
  { state with panicked := true }

/-- The next step of a callback. -/
def State.proceed (state : State) (index : Nat) : Callback → Option State
  | .message id queue data => do
      let session ← state.sessions id
      match queue, session.assigned queue with
      -- the HID callback drops the message when the queue is nil
      | .hid _, false => return state.setCallback index .done
      | _, loaded => return state.setCallback index (.sending id queue loaded data)
  | .sending id queue loaded data => do
      let session ← state.sessions id
      match Channel.send (.message data) (session.reference queue loaded) with
      | .panics _ => return state.panic
      | .blocks => none
      | .returns channel =>
          return (state.setSession id
            (session.setChannel queue channel)).setCallback index .done
  | .checkCurrentSession keysDown =>
      some (state.setCallback index
        (if state.currentSession.isSome then .enqueueKeysDownState keysDown
        else .done))
  | .enqueueKeysDownState keysDown =>
      match state.currentSession with
      -- `enqueueKeysDownState` returns when its receiver is nil
      | none => some (state.setCallback index .resetKeepAliveTime)
      | some id => some (state.setCallback index (.checkQueue id keysDown))
  | .checkQueue id keysDown => do
      let session ← state.sessions id
      return state.setCallback index
        (if session.assigned .keysDownState then .loadQueue id keysDown
        else .resetKeepAliveTime)
  | .loadQueue id keysDown => do
      let session ← state.sessions id
      return state.setCallback index
        (.selecting id (session.assigned .keysDownState) keysDown)
  | .selecting id loaded keysDown => do
      let session ← state.sessions id
      match Channel.trySend (.keysDown keysDown)
          (session.reference .keysDownState loaded) with
      | .panics _ => return state.panic
      | .blocks => none
      | .returns none => return state.setCallback index .resetKeepAliveTime
      | .returns (some channel) =>
          return (state.setSession id
            (session.setChannel .keysDownState channel)).setCallback index
              .resetKeepAliveTime
  | .resetKeepAliveTime =>
      match state.currentSession with
      -- `keepAliveJitterLock` of a nil receiver
      | none => some state.panic
      | some _ => some (state.setCallback index .done)
  | .done => none

/-- The next step of the handler of a session, with what is left of it. -/
def State.tearDown (state : State) (id : String) (session : Session)
    (rest : List Instruction) : Instruction → State
  | .compareCurrentSession =>
      state.setSession id
        { session with
          handler := rest
          isCurrent := state.currentSession = some id }
  | .clearCurrentSession =>
      let cleared :=
        if session.isCurrent then { state with currentSession := none } else state
      cleared.setSession id { session with handler := rest }
  | .checkRpcQueue =>
      state.setSession id
        { session with
          handler :=
            if session.assigned .rpc then rest
            else rest.drop (closeAndClear .rpc).length }
  | .load queue =>
      state.setSession id
        { session with handler := rest, loaded := session.assigned queue }
  | .close queue =>
      match Channel.close (session.reference queue session.loaded) with
      | .returns channel =>
          state.setSession id
            { session.setChannel queue channel with handler := rest }
      | _ => state.panic
  | .assignNil queue =>
      state.setSession id
        { session with
          handler := rest
          assigned := Function.update session.assigned queue false }

def step (state : State) (label : Label) : Option State :=
  if state.panicked then none
  else
    match label with
    | .newSession id =>
        if (state.sessions id).isSome then none
        else some (state.setSession id {})
    | .setCurrentSession id =>
        if (state.sessions id).isSome then
          some { state with currentSession := some id }
        else none
    | .hidMessage id isString data =>
        match state.sessions id, HidRpc.onDataChannelMessage isString data with
        | some _, .ok none => some state
        | some _, .ok (some queueIndex) =>
            some (state.spawn (.message id (.ofIndex queueIndex) data))
        | _, _ => none
    | .rpcMessage id data =>
        if (state.sessions id).isSome then
          some (state.spawn (.message id .rpc data))
        else none
    | .keysDownChange keysDown =>
        some (state.spawn (.checkCurrentSession keysDown))
    | .callback index => do
        state.proceed index (← state.callbacks[index]?)
    | .worker id queue => do
        let session ← state.sessions id
        match (session.channel queue).receive with
        | .returns (_, channel) =>
            return state.setSession id (session.setChannel queue channel)
        | _ => none
    | .iceStateChange id closed => do
        let session ← state.sessions id
        if closed then
          -- the calls of the handler follow one another
          if session.handler = [] then
            return state.setSession id
              { session with
                handler := onClosed
                closings := session.closings + 1 }
          else none
        else return state
    | .handler id => do
        let session ← state.sessions id
        match session.handler with
        | [] => none
        | instruction :: rest =>
            return state.tearDown id session rest instruction

/-- The handler has not yet closed the queue. -/
def Session.BeforeClose (session : Session) (queue : Queue) : Prop :=
  session.closings = 0 ∨
    session.closings = 1 ∧ .close queue ∈ session.handler

/-- A send on a queue comes before the handler's close of it, the current
session is not cleared between the check and the last read of a key-state
change, and the handler closes the queues in its first call only. -/
def InOrder (state : State) : Label → Prop
  | .callback index =>
      match state.callbacks[index]? with
      | some (.sending id queue true _) =>
          ∀ session, state.sessions id = some session → session.BeforeClose queue
      | some (.selecting id true _) =>
          ∀ session, state.sessions id = some session →
            session.BeforeClose .keysDownState
      | some .resetKeepAliveTime => state.currentSession ≠ none
      | _ => True
  | .handler id =>
      ∀ session queue rest, state.sessions id = some session →
        session.handler = .close queue :: rest → session.closings = 1
  | _ => True

/-! ## The handler of a closed connection -/

def queues : List Queue :=
  [.hid 0, .hid 1, .hid 2, .hid 3, .rpc, .keysDownState]

theorem mem_queues (queue : Queue) : queue ∈ queues := by
  cases queue with
  | hid index =>
      have all : ∀ index : Fin 4, Queue.hid index ∈ queues := by decide
      exact all index
  | rpc => decide
  | keysDownState => decide

theorem onClosed_nodup : onClosed.Nodup := by decide

theorem close_mem_onClosed (queue : Queue) : .close queue ∈ onClosed := by
  have all : ∀ queue ∈ queues, .close queue ∈ onClosed := by decide
  exact all queue (mem_queues queue)

theorem assignNil_mem_onClosed (queue : Queue) : .assignNil queue ∈ onClosed := by
  have all : ∀ queue ∈ queues, .assignNil queue ∈ onClosed := by decide
  exact all queue (mem_queues queue)

/-- The handler closes what it has just loaded. -/
theorem load_before_close {instruction : Instruction} {queue : Queue}
    {rest : List Instruction}
    (suffix : instruction :: .close queue :: rest <:+ onClosed) :
    instruction = .load queue := by
  have all : ∀ tail ∈ onClosed.tails, ∀ queue ∈ queues,
      tail[1]? = some (.close queue) → tail[0]? = some (.load queue) := by
    decide
  exact Option.some.inj
    (all _ ((List.mem_tails _ _).mpr suffix) queue (mem_queues queue) rfl)

/-- The handler loads a field before it sets it to nil. -/
theorem assignNil_mem_of_load {queue : Queue} {tail : List Instruction}
    (suffix : tail <:+ onClosed) (loads : .load queue ∈ tail) :
    .assignNil queue ∈ tail := by
  have all : ∀ tail ∈ onClosed.tails, ∀ queue ∈ queues,
      .load queue ∈ tail → .assignNil queue ∈ tail := by
    decide
  exact all _ ((List.mem_tails _ _).mpr suffix) queue (mem_queues queue) loads

theorem assignNil_mem_of_checkRpcQueue {tail : List Instruction}
    (suffix : tail <:+ onClosed) (checks : .checkRpcQueue ∈ tail) :
    .assignNil .rpc ∈ tail := by
  have all : ∀ tail ∈ onClosed.tails,
      .checkRpcQueue ∈ tail → .assignNil .rpc ∈ tail := by
    decide
  exact all _ ((List.mem_tails _ _).mpr suffix) checks

/-- In the first call of the handler what is left of it says which queues are
open and which fields are not nil; after it all are closed and nil. -/
structure Session.Wired (session : Session) : Prop where
  open_iff : ∀ queue,
    (session.channel queue).closed = false ↔ session.BeforeClose queue
  assigned_iff : ∀ queue, session.assigned queue = true ↔
    session.closings = 0 ∨
      session.closings = 1 ∧ .assignNil queue ∈ session.handler
  suffix : session.handler <:+ onClosed
  idle : session.closings = 0 → session.handler = []
  loads : ∀ queue rest, session.handler = .close queue :: rest →
    session.closings = 1 → session.loaded = true

namespace Session.Wired

variable {session : Session} {rest : List Instruction} {queue : Queue}

theorem initial : Session.Wired {} where
  open_iff := fun _ => iff_of_true rfl (.inl rfl)
  assigned_iff := fun _ => iff_of_true rfl (.inl rfl)
  suffix := List.nil_suffix
  idle := fun _ => rfl
  loads := nofun

/-- A send or a receive leaves the channel as open as it was. -/
theorem setChannel (wired : session.Wired) {channel : Channel Item}
    (same : channel.closed = (session.channel queue).closed) :
    (session.setChannel queue channel).Wired := by
  refine ⟨fun other => ?_, wired.assigned_iff, wired.suffix, wired.idle,
    wired.loads⟩
  refine Iff.trans ?_ (wired.open_iff other)
  by_cases here : other = queue
  · subst here
    simp [Session.setChannel, same]
  · simp [Session.setChannel, Function.update_of_ne here]

theorem start (wired : session.Wired) (finished : session.handler = []) :
    Session.Wired { session with
      handler := onClosed
      closings := session.closings + 1 } := by
  refine ⟨fun queue => ?_, fun queue => ?_, List.suffix_rfl, nofun, nofun⟩
  · rw [wired.open_iff queue]
    simp [Session.BeforeClose, finished, close_mem_onClosed]
  · rw [wired.assigned_iff queue]
    simp [finished, assignNil_mem_onClosed]

theorem closings_ne_zero (wired : session.Wired) {instruction : Instruction}
    (here : session.handler = instruction :: rest) : session.closings ≠ 0 := by
  intro never
  rw [wired.idle never] at here
  cases here

theorem rest_suffix (wired : session.Wired) {instruction : Instruction}
    (here : session.handler = instruction :: rest) : rest <:+ onClosed := by
  have suffix := wired.suffix
  rw [here] at suffix
  exact (List.suffix_cons instruction rest).trans suffix

/-- Instructions other than the first are left as they were. -/
theorem mem_rest_iff (wired : session.Wired) {instruction other : Instruction}
    (here : session.handler = instruction :: rest) :
    other ∈ rest ↔ other ≠ instruction ∧ other ∈ session.handler := by
  have nodup : session.handler.Nodup :=
    onClosed_nodup.sublist wired.suffix.sublist
  rw [here] at nodup ⊢
  have notAgain := (List.nodup_cons.mp nodup).1
  constructor
  · intro member
    refine ⟨?_, List.mem_cons_of_mem _ member⟩
    rintro rfl
    exact notAgain member
  · rintro ⟨different, member⟩
    exact (List.mem_cons.mp member).resolve_left different

/-- After a load the queue about to be closed has been loaded. -/
theorem loads_rest (wired : session.Wired) {instruction : Instruction}
    (here : session.handler = instruction :: rest)
    {after : List Instruction} (closes : rest = .close queue :: after)
    (first : session.closings = 1) :
    instruction = .load queue ∧ session.assigned queue = true := by
  have suffix := wired.suffix
  rw [here, closes] at suffix
  obtain rfl := load_before_close suffix
  refine ⟨rfl, (wired.assigned_iff queue).mpr (.inr ⟨first, ?_⟩)⟩
  rw [here, closes]
  exact assignNil_mem_of_load suffix List.mem_cons_self

/-- An instruction that neither closes a queue nor sets a field to nil. -/
theorem advance (wired : session.Wired) {instruction : Instruction}
    (here : session.handler = instruction :: rest)
    (closesNone : ∀ queue, instruction ≠ .close queue)
    (clearsNone : ∀ queue, instruction ≠ .assignNil queue)
    (isCurrent loaded : Bool)
    (loads : ∀ queue, instruction = .load queue →
      loaded = session.assigned queue) :
    Session.Wired { session with
      handler := rest
      isCurrent := isCurrent
      loaded := loaded } := by
  refine ⟨fun queue => ?_, fun queue => ?_, wired.rest_suffix here, ?_, ?_⟩
  · rw [wired.open_iff queue]
    simp only [Session.BeforeClose]
    rw [wired.mem_rest_iff here, and_iff_right (closesNone queue).symm]
  · rw [wired.assigned_iff queue]
    dsimp only
    rw [wired.mem_rest_iff here, and_iff_right (clearsNone queue).symm]
  · intro never
    exact absurd never (wired.closings_ne_zero here)
  · intro queue after closes first
    obtain ⟨isLoad, assigned⟩ := wired.loads_rest here closes first
    exact (loads queue isLoad).trans assigned

/-- The rpc queue is skipped only after the first call. -/
theorem skipRpcQueue (wired : session.Wired)
    (here : session.handler = .checkRpcQueue :: rest)
    (isNil : session.assigned .rpc = false) (count : Nat) :
    Session.Wired { session with handler := rest.drop count } := by
  have again : session.closings ≠ 1 := by
    intro first
    have member : .checkRpcQueue ∈ session.handler := by
      rw [here]
      exact List.mem_cons_self
    have assigned := (wired.assigned_iff .rpc).mpr
      (.inr ⟨first, assignNil_mem_of_checkRpcQueue wired.suffix member⟩)
    rw [isNil] at assigned
    cases assigned
  have never := wired.closings_ne_zero here
  refine ⟨fun queue => ?_, fun queue => ?_, ?_, ?_, ?_⟩
  · rw [wired.open_iff queue]
    simp [Session.BeforeClose, never, again]
  · rw [wired.assigned_iff queue]
    simp [never, again]
  · exact (List.drop_suffix count rest).trans (wired.rest_suffix here)
  · exact fun none => absurd none never
  · exact fun _ _ _ first => absurd first again

/-- The first call of the handler closes an open queue. -/
theorem close (wired : session.Wired)
    (here : session.handler = .close queue :: rest) {channel : Channel Item}
    (isClosed : channel.closed = true) :
    Session.Wired { session.setChannel queue channel with handler := rest } := by
  have never := wired.closings_ne_zero here
  refine ⟨fun other => ?_, fun other => ?_, wired.rest_suffix here, ?_, ?_⟩
  · simp only [Session.BeforeClose, Session.setChannel]
    rw [wired.mem_rest_iff here]
    by_cases same : other = queue
    · subst same
      simp [isClosed, never]
    · rw [Function.update_of_ne same, wired.open_iff other]
      simp [Session.BeforeClose, same]
  · refine Iff.trans (wired.assigned_iff other) ?_
    simp only [Session.setChannel]
    rw [wired.mem_rest_iff here]
    simp
  · exact fun none => absurd none never
  · intro other after closes first
    cases (wired.loads_rest here closes first).1

theorem assignNil (wired : session.Wired)
    (here : session.handler = .assignNil queue :: rest) :
    Session.Wired { session with
      handler := rest
      assigned := Function.update session.assigned queue false } := by
  have never := wired.closings_ne_zero here
  refine ⟨fun other => ?_, fun other => ?_, wired.rest_suffix here, ?_, ?_⟩
  · rw [wired.open_iff other]
    simp only [Session.BeforeClose]
    rw [wired.mem_rest_iff here]
    simp
  · dsimp only
    rw [wired.mem_rest_iff here]
    by_cases same : other = queue
    · subst same
      simp [never]
    · rw [Function.update_of_ne same, wired.assigned_iff other]
      simp [same]
  · exact fun none => absurd none never
  · intro other after closes first
    cases (wired.loads_rest here closes first).1

/-- The handler panics at a close exactly when it is called again. -/
theorem close_panics_iff (wired : session.Wired)
    (here : session.handler = .close queue :: rest) :
    (∃ reason, Channel.close (session.reference queue session.loaded) =
        .panics reason) ↔ session.closings ≠ 1 := by
  rw [Channel.close_panics_iff]
  have member : .close queue ∈ session.handler := by
    rw [here]
    exact List.mem_cons_self
  constructor
  · intro closed first
    have loaded := wired.loads queue rest here first
    have isClosed := closed (session.channel queue)
      (by simp [Session.reference, loaded])
    have isOpen := (wired.open_iff queue).mpr (.inr ⟨first, member⟩)
    rw [isOpen] at isClosed
    cases isClosed
  · intro again channel refers
    have never := wired.closings_ne_zero here
    cases loaded : session.loaded with
    | false => simp [Session.reference, loaded] at refers
    | true =>
        obtain rfl : session.channel queue = channel := by
          simpa [Session.reference, loaded] using refers
        by_contra isOpen
        have before := (wired.open_iff queue).mp (by simpa using isOpen)
        rcases before with none | ⟨first, -⟩
        · exact never none
        · exact again first

/-- A send through a loaded reference panics exactly when the handler has
passed its close of the queue. -/
theorem closed_iff (wired : session.Wired) :
    (session.channel queue).closed = true ↔ ¬ session.BeforeClose queue := by
  rw [← wired.open_iff queue]
  simp

end Session.Wired

/-! ## Steps that panic -/

variable {state next : State} {label : Label}

/-- Every session is wired. -/
def State.Sound (state : State) : Prop :=
  ∀ id session, state.sessions id = some session → session.Wired

theorem State.Sound.initial : State.Sound {} := nofun

namespace State.Sound

theorem setSession (sound : state.Sound) {id : String} {session : Session}
    (wired : session.Wired) : (state.setSession id session).Sound := by
  intro other otherSession found
  by_cases same : other = id
  · subst same
    obtain rfl : session = otherSession := by
      simpa [State.setSession] using found
    exact wired
  · have before : state.sessions other = some otherSession :=
      (Function.update_of_ne same _ _).symm.trans found
    exact sound other otherSession before

theorem tearDown (sound : state.Sound) {id : String} {session : Session}
    (found : state.sessions id = some session) {instruction : Instruction}
    {rest : List Instruction} (here : session.handler = instruction :: rest) :
    (state.tearDown id session rest instruction).Sound := by
  have wired := sound id session found
  cases instruction with
  | compareCurrentSession =>
      exact sound.setSession
        (wired.advance here nofun nofun _ session.loaded nofun)
  | clearCurrentSession =>
      have advanced :=
        wired.advance here nofun nofun session.isCurrent session.loaded nofun
      simp only [State.tearDown]
      split_ifs
      · have cleared : State.Sound { state with currentSession := none } := sound
        exact cleared.setSession advanced
      · exact sound.setSession advanced
  | checkRpcQueue =>
      simp only [State.tearDown]
      cases assigned : session.assigned .rpc with
      | true =>
          exact sound.setSession
            (wired.advance here nofun nofun session.isCurrent session.loaded
              nofun)
      | false => exact sound.setSession (wired.skipRpcQueue here assigned _)
  | load queue =>
      refine sound.setSession
        (wired.advance here nofun nofun session.isCurrent _ ?_)
      rintro _ ⟨rfl⟩
      rfl
  | close queue =>
      simp only [State.tearDown]
      split
      · rename_i channel closes
        refine sound.setSession (wired.close here ?_)
        cases loaded : session.loaded with
        | false => simp [Session.reference, loaded, Channel.close] at closes
        | true =>
            simp only [Session.reference, loaded, if_true] at closes
            exact Channel.closed_of_close closes
      · exact sound
  | assignNil queue => exact sound.setSession (wired.assignNil here)

theorem proceed (sound : state.Sound) {index : Nat} {callback : Callback}
    (taken : state.proceed index callback = some next) : next.Sound := by
  cases callback with
  | message id queue data =>
      simp only [State.proceed, Option.bind_eq_bind,
        Option.bind_eq_some_iff] at taken
      obtain ⟨session, -, taken⟩ := taken
      split at taken <;> cases taken <;> exact sound
  | sending id queue loaded data =>
      simp only [State.proceed, Option.bind_eq_bind,
        Option.bind_eq_some_iff] at taken
      obtain ⟨session, found, taken⟩ := taken
      split at taken
      · cases taken
        exact sound
      · cases taken
      · rename_i channel sends
        cases taken
        have wired := sound id session found
        have same : channel.closed = (session.channel queue).closed := by
          cases loaded with
          | false => simp [Session.reference, Channel.send] at sends
          | true => exact Channel.closed_of_send sends
        exact sound.setSession (wired.setChannel same)
  | checkCurrentSession keysDown =>
      cases taken
      exact sound
  | enqueueKeysDownState keysDown =>
      simp only [State.proceed] at taken
      split at taken <;> cases taken <;> exact sound
  | checkQueue id keysDown | loadQueue id keysDown =>
      simp only [State.proceed, Option.bind_eq_bind,
        Option.bind_eq_some_iff] at taken
      obtain ⟨session, -, taken⟩ := taken
      cases taken
      exact sound
  | selecting id loaded keysDown =>
      simp only [State.proceed, Option.bind_eq_bind,
        Option.bind_eq_some_iff] at taken
      obtain ⟨session, found, taken⟩ := taken
      split at taken
      · cases taken
        exact sound
      · cases taken
      · cases taken
        exact sound
      · rename_i channel sends
        cases taken
        have wired := sound id session found
        have same : channel.closed =
            (session.channel .keysDownState).closed := by
          cases loaded with
          | false =>
              simp [Session.reference, Channel.trySend, Channel.send] at sends
          | true => exact Channel.closed_of_trySend sends
        exact sound.setSession (wired.setChannel same)
  | resetKeepAliveTime =>
      simp only [State.proceed] at taken
      split at taken <;> cases taken <;> exact sound
  | done => cases taken

theorem step (sound : state.Sound) (taken : Teardown.step state label = some next) :
    next.Sound := by
  unfold Teardown.step at taken
  split at taken
  · cases taken
  cases label with
  | newSession id =>
      simp only at taken
      split_ifs at taken
      cases taken
      exact sound.setSession Session.Wired.initial
  | setCurrentSession id =>
      simp only at taken
      split_ifs at taken
      cases taken
      exact sound
  | hidMessage id isString data =>
      simp only at taken
      split at taken <;> cases taken <;> exact sound
  | rpcMessage id data =>
      simp only at taken
      split_ifs at taken
      cases taken
      exact sound
  | keysDownChange keysDown =>
      cases taken
      exact sound
  | callback index =>
      simp only [Option.bind_eq_bind, Option.bind_eq_some_iff] at taken
      obtain ⟨callback, -, proceeds⟩ := taken
      exact sound.proceed proceeds
  | worker id queue =>
      simp only [Option.bind_eq_bind, Option.bind_eq_some_iff] at taken
      obtain ⟨session, found, taken⟩ := taken
      split at taken
      · rename_i item channel receives
        cases taken
        exact sound.setSession
          ((sound id session found).setChannel (Channel.closed_of_receive receives))
      · cases taken
  | iceStateChange id closed =>
      simp only [Option.bind_eq_bind, Option.bind_eq_some_iff] at taken
      obtain ⟨session, found, taken⟩ := taken
      split_ifs at taken with isClosed finished
      · cases taken
        exact sound.setSession ((sound id session found).start finished)
      · cases taken
        exact sound
  | handler id =>
      simp only [Option.bind_eq_bind, Option.bind_eq_some_iff] at taken
      obtain ⟨session, found, taken⟩ := taken
      split at taken
      · cases taken
      · rename_i instruction rest here
        cases taken
        exact sound.tearDown found here

end State.Sound

/-- A send through a reference loaded earlier panics exactly when the queue has
been closed since. -/
theorem Session.Wired.reference_closed_iff {session : Session}
    (wired : session.Wired) {queue : Queue} :
    (∃ channel, session.reference queue true = some channel ∧
      channel.closed = true) ↔ ¬ session.BeforeClose queue := by
  rw [← wired.closed_iff]
  simp [Session.reference]

theorem proceed_panicked_iff (sound : state.Sound)
    (alive : state.panicked = false) {index : Nat} {callback : Callback}
    (queued : state.callbacks[index]? = some callback)
    (taken : state.proceed index callback = some next) :
    next.panicked = false ↔ InOrder state (.callback index) := by
  cases callback with
  | message id queue data =>
      simp only [InOrder, queued, iff_true]
      simp only [State.proceed, Option.bind_eq_bind,
        Option.bind_eq_some_iff] at taken
      obtain ⟨session, -, taken⟩ := taken
      split at taken <;> cases taken <;> exact alive
  | sending id queue loaded data =>
      simp only [State.proceed, Option.bind_eq_bind,
        Option.bind_eq_some_iff] at taken
      obtain ⟨session, found, taken⟩ := taken
      have panics := @Channel.send_panics_iff _ (Item.message data)
        (session.reference queue loaded)
      cases loaded with
      | false => simp [Session.reference, Channel.send] at taken
      | true =>
          rw [(sound id session found).reference_closed_iff] at panics
          simp only [InOrder, queued, found, Option.some.injEq,
            forall_eq']
          split at taken
          · rename_i reason sends
            cases taken
            exact iff_of_false Bool.noConfusion (panics.mp ⟨reason, sends⟩)
          · cases taken
          · rename_i channel sends
            cases taken
            refine iff_of_true alive ?_
            by_contra late
            exact Attempt.not_panics_of_returns sends (panics.mpr late)
  | checkCurrentSession keysDown =>
      simp only [InOrder, queued, iff_true]
      cases taken
      exact alive
  | enqueueKeysDownState keysDown =>
      simp only [InOrder, queued, iff_true]
      simp only [State.proceed] at taken
      split at taken <;> cases taken <;> exact alive
  | checkQueue id keysDown | loadQueue id keysDown =>
      simp only [InOrder, queued, iff_true]
      simp only [State.proceed, Option.bind_eq_bind,
        Option.bind_eq_some_iff] at taken
      obtain ⟨session, -, taken⟩ := taken
      cases taken
      exact alive
  | selecting id loaded keysDown =>
      simp only [State.proceed, Option.bind_eq_bind,
        Option.bind_eq_some_iff] at taken
      obtain ⟨session, found, taken⟩ := taken
      have panics := @Channel.trySend_panics_iff _ (Item.keysDown keysDown)
        (session.reference .keysDownState loaded)
      cases loaded with
      | false =>
          simp only [InOrder, queued, iff_true]
          simp only [Session.reference, Channel.trySend, Channel.send,
            Bool.false_eq_true, if_false] at taken
          cases taken
          exact alive
      | true =>
          rw [(sound id session found).reference_closed_iff] at panics
          simp only [InOrder, queued, found, Option.some.injEq,
            forall_eq']
          have inTime : ∀ outcome, Channel.trySend (.keysDown keysDown)
              (session.reference .keysDownState true) = .returns outcome →
                session.BeforeClose .keysDownState := by
            intro outcome sends
            by_contra late
            exact Attempt.not_panics_of_returns sends (panics.mpr late)
          split at taken
          · rename_i reason sends
            cases taken
            exact iff_of_false Bool.noConfusion (panics.mp ⟨reason, sends⟩)
          · cases taken
          · rename_i sends
            cases taken
            exact iff_of_true alive (inTime _ sends)
          · rename_i channel sends
            cases taken
            exact iff_of_true alive (inTime _ sends)
  | resetKeepAliveTime =>
      simp only [InOrder, queued]
      simp only [State.proceed] at taken
      split at taken
      · rename_i cleared
        cases taken
        exact iff_of_false Bool.noConfusion fun current => current cleared
      · rename_i id current
        cases taken
        exact iff_of_true alive (by simp [current])
  | done => cases taken

theorem tearDown_panicked_iff (sound : state.Sound)
    (alive : state.panicked = false) {id : String} {session : Session}
    (found : state.sessions id = some session) {instruction : Instruction}
    {rest : List Instruction} (here : session.handler = instruction :: rest) :
    (state.tearDown id session rest instruction).panicked = false ↔
      InOrder state (.handler id) := by
  have inOrder_of : (∀ queue, instruction ≠ .close queue) →
      InOrder state (.handler id) := by
    intro closesNone other queue after found' closes
    obtain rfl := Option.some.inj (found.symm.trans found')
    rw [here] at closes
    exact absurd (List.cons.inj closes).1 (closesNone queue)
  cases instruction with
  | compareCurrentSession => exact iff_of_true alive (inOrder_of nofun)
  | clearCurrentSession =>
      refine iff_of_true ?_ (inOrder_of nofun)
      simp only [State.tearDown]
      split_ifs <;> exact alive
  | checkRpcQueue => exact iff_of_true alive (inOrder_of nofun)
  | load queue => exact iff_of_true alive (inOrder_of nofun)
  | assignNil queue => exact iff_of_true alive (inOrder_of nofun)
  | close queue =>
      have wired := sound id session found
      have panics := wired.close_panics_iff here
      have first : InOrder state (.handler id) ↔ session.closings = 1 := by
        constructor
        · intro inOrder
          exact inOrder session queue rest found here
        · intro first other otherQueue after found' closes
          obtain rfl := Option.some.inj (found.symm.trans found')
          exact first
      rw [first]
      simp only [State.tearDown]
      split
      · rename_i channel closes
        refine iff_of_true alive ?_
        by_contra again
        exact Attempt.not_panics_of_returns closes (panics.mpr again)
      · rename_i notReturned
        refine iff_of_false nofun fun isFirst => ?_
        have loaded := wired.loads queue rest here isFirst
        cases closes : Channel.close
            (session.reference queue session.loaded) with
        | returns channel => exact notReturned channel closes
        | blocks =>
            simp only [Session.reference, loaded, if_true, Channel.close] at closes
            split_ifs at closes
        | panics reason => exact panics.mp ⟨reason, closes⟩ isFirst

/-- A step panics exactly when it is out of order. -/
theorem panicked_iff (sound : state.Sound) (alive : state.panicked = false)
    (taken : step state label = some next) :
    next.panicked = false ↔ InOrder state label := by
  unfold step at taken
  rw [if_neg (by simp [alive])] at taken
  cases label with
  | newSession id =>
      simp only at taken
      split_ifs at taken
      cases taken
      exact iff_of_true alive trivial
  | setCurrentSession id =>
      simp only at taken
      split_ifs at taken
      cases taken
      exact iff_of_true alive trivial
  | hidMessage id isString data =>
      simp only at taken
      split at taken <;> cases taken <;> exact iff_of_true alive trivial
  | rpcMessage id data =>
      simp only at taken
      split_ifs at taken
      cases taken
      exact iff_of_true alive trivial
  | keysDownChange keysDown =>
      cases taken
      exact iff_of_true alive trivial
  | callback index =>
      simp only [Option.bind_eq_bind, Option.bind_eq_some_iff] at taken
      obtain ⟨callback, queued, proceeds⟩ := taken
      exact proceed_panicked_iff sound alive queued proceeds
  | worker id queue =>
      simp only [Option.bind_eq_bind, Option.bind_eq_some_iff] at taken
      obtain ⟨session, -, taken⟩ := taken
      split at taken
      · cases taken
        exact iff_of_true alive trivial
      · cases taken
  | iceStateChange id closed =>
      simp only [Option.bind_eq_bind, Option.bind_eq_some_iff] at taken
      obtain ⟨session, -, taken⟩ := taken
      split_ifs at taken <;> cases taken <;> exact iff_of_true alive trivial
  | handler id =>
      simp only [Option.bind_eq_bind, Option.bind_eq_some_iff] at taken
      obtain ⟨session, found, taken⟩ := taken
      split at taken
      · cases taken
      · rename_i instruction rest here
        cases taken
        exact tearDown_panicked_iff sound alive found here

/-- Of the runs of message callbacks, key-state changes and closing sessions,
those without a panic are exactly those in which every send comes before the
handler's close of its queue, the current session is not cleared between the
check and the last read of a key-state change, and no handler closes the queues
of a session a second time. -/
theorem never_panics_iff_inOrder (labels : List Label) :
    AllStates step (fun state => state.panicked = false) {} labels ↔
      AllSteps step InOrder {} labels := by
  refine allStates_iff_allSteps_of_invariant ?_ ?_ State.Sound.initial ?_ labels
  · intro state next label sound taken
    exact sound.step taken
  · intro state next label sound alive taken
    exact panicked_iff sound alive taken
  · rfl

/-- A player presses a key while another connection, the current one, closes:
the current session is cleared between two reads of the key-state callback. -/
def keyPressDuringClose : List Label :=
  [.newSession "a", .setCurrentSession "a", .keysDownChange {}, .callback 0,
    .callback 0, .callback 0, .callback 0, .callback 0,
    .iceStateChange "a" true, .handler "a", .handler "a", .callback 0]

/-- The last read then finds no session, and the process ends. -/
theorem key_press_during_close_panics :
    ¬ ∀ labels,
      AllStates step (fun state => state.panicked = false) {} labels := by
  intro alive
  have panicked := (alive keyPressDuringClose).last rfl
  cases panicked

end Teardown

end JetKvm
