import JetKvm.LabelledRuns
import JetKvm.NativeEvents

/-!
# The event stream

Events wait in `eventStreamChan` of the gRPC server until a call of
`StreamEvents` takes them, travel on the stream of that call, and wait in
`eventCh` of the client until `handleEvent` is called.  A later call of
`StreamEvents` replaces the earlier one, which may not have noticed yet.
-/

namespace JetKvm

namespace NativeEvents

open LabelledRuns

/-- Where a call of `StreamEvents` stands. -/
inductive StreamPoint where
  | starting
  | selecting
  | checking (event : Event)
  | sending (event : Event)
  | cleaning
  | returned
  deriving DecidableEq, Repr

/-- The event in the hands of the call. -/
def StreamPoint.holding : StreamPoint → List Event
  | .checking event | .sending event => [event]
  | _ => []

/-- A call of `StreamEvents`: `done` is whether its `ctx.Done()` is closed, and
`inTransit` is what it sent and the client has not received. -/
structure Stream where
  point : StreamPoint := .starting
  done : Bool := false
  inTransit : List Event := []
  deriving DecidableEq, Repr

/-- What the call still carries, oldest first. -/
def Stream.carried (stream : Stream) : List Event :=
  stream.inTransit ++ stream.point.holding

/-- The capacity of `eventStreamChan` and of `eventCh` -/
def eventCapacity : Nat := 100

/-- The gRPC server with its calls of `StreamEvents`, numbered as they are made,
and the client; `broadcast` and `handled` record the callbacks on either side. -/
structure State where
  eventStreamChan : List Event := []
  streams : List Stream := []
  eventStreamCtx : Option Nat := none
  eventStream : Option Nat := none
  eventCh : List Event := []
  broadcast : List Notification := []
  handled : List Notification := []
  deriving DecidableEq, Repr

/-- Labels with a number are moves of that call of `StreamEvents`; `disconnect`
is the end of its own context, and `loseStream` an error of `stream.Recv`. -/
inductive Label where
  | report (report : Report)
  | openStream
  | start (call : Nat)
  | take (call : Nat)
  | check (call : Nat)
  | send (call : Nat) (succeeds : Bool)
  | disconnect (call : Nat)
  | finish (call : Nat)
  | cleanUp (call : Nat)
  | receive
  | loseStream
  | handle
  deriving DecidableEq, Repr

def State.setStream (state : State) (call : Nat) (stream : Stream) : State :=
  { state with streams := state.streams.set call stream }

/-- `s.eventStreamCancel()`, if it is set -/
def State.cancelStream (state : State) : State :=
  { state with
    streams :=
      match state.eventStreamCtx with
      | none => state.streams
      | some call =>
          state.streams.modify call fun stream => { stream with done := true } }

/-- A move of the call of `StreamEvents` that stands as given. -/
def streamStep (state : State) (call : Nat) (stream : Stream) :
    Label → Option State
  | .start _ =>
      if stream.point = .starting then
        some { state.cancelStream.setStream call
            { stream with point := .selecting } with
          eventStreamCtx := some call }
      else none
  | .take _ =>
      match stream.point, state.eventStreamChan with
      | .selecting, event :: rest =>
          some { state.setStream call
              { stream with point := .checking event } with
            eventStreamChan := rest }
      | _, _ => none
  | .check _ =>
      match stream.point with
      | .checking event =>
          some (state.setStream call { stream with
            point := if state.eventStreamCtx = some call then .sending event
              else .cleaning })
      | _ => none
  | .send _ succeeds =>
      match stream.point with
      | .sending event =>
          some (state.setStream call
            (if succeeds then
              { stream with
                point := .selecting
                inTransit := stream.inTransit ++ [event] }
            else { stream with point := .cleaning }))
      | _ => none
  | .disconnect _ => some (state.setStream call { stream with done := true })
  | .finish _ =>
      if stream.point = .selecting ∧ stream.done = true then
        some (state.setStream call { stream with point := .cleaning })
      else none
  | .cleanUp _ =>
      if stream.point = .cleaning then
        some { state.setStream call
            { stream with point := .returned, done := true } with
          eventStreamCtx :=
            if state.eventStreamCtx = some call then none
            else state.eventStreamCtx }
      else none
  | .receive =>
      match stream.inTransit with
      | [] => none
      | event :: rest =>
          some { state.setStream call { stream with inTransit := rest } with
            eventCh :=
              if state.eventCh.length < eventCapacity then
                state.eventCh ++ [event]
              else state.eventCh }
  | _ => none

/-- The call of `StreamEvents` that a label is about. -/
def Label.call (state : State) : Label → Option Nat
  | .start call | .take call | .check call | .send call _ | .disconnect call
  | .finish call | .cleanUp call => some call
  | .receive => state.eventStream
  | _ => none

def step (state : State) : Label → Option State
  | .report report =>
      if state.eventStreamChan.length < eventCapacity then
        some { state with
          eventStreamChan :=
            state.eventStreamChan ++ [toEvent report.notification]
          broadcast := state.broadcast ++ [report.notification] }
      else none
  | .openStream =>
      if state.eventStream = none then
        some { state with
          streams := state.streams ++ [({} : Stream)]
          eventStream := some state.streams.length }
      else none
  | .loseStream =>
      if state.eventStream = none then none
      else some { state with eventStream := none }
  | .handle =>
      match state.eventCh with
      | [] => none
      | event :: rest =>
          some { state with
            eventCh := rest
            handled := state.handled ++ (handleEvent event).toList }
  | label => do
      let call ← label.call state
      let stream ← state.streams[call]?
      streamStep state call stream label

/-- What the stream that the client receives from carries. -/
def State.onStream (state : State) : List Event :=
  match state.eventStream.bind fun call => state.streams[call]? with
  | none => []
  | some stream => stream.carried

/-- The events on their way to `handleEvent`, oldest first. -/
def State.underway (state : State) : List Event :=
  state.eventCh ++ state.onStream ++ state.eventStreamChan

/-- What is handled when nothing underway is lost. -/
def State.bound (state : State) : List Notification :=
  state.handled ++ state.underway.filterMap handleEvent

/-- The step leaves every event on its way, and takes no streaming status that
the message cannot carry. -/
def Delivers (state : State) : Label → Prop
  | .report report => report.streaming = 0
  | .take call => state.eventStream = some call
  | .check call =>
      state.eventStream = some call → state.eventStreamCtx = some call
  | .send call succeeds => state.eventStream = some call → succeeds = true
  | .receive => state.eventCh.length < eventCapacity
  | .loseStream => state.onStream = []
  | _ => True

instance (state : State) : (label : Label) → Decidable (Delivers state label)
  | .report report => inferInstanceAs (Decidable (report.streaming = 0))
  | .take call => inferInstanceAs (Decidable (state.eventStream = some call))
  | .check call => inferInstanceAs (Decidable
      (state.eventStream = some call → state.eventStreamCtx = some call))
  | .send call succeeds => inferInstanceAs (Decidable
      (state.eventStream = some call → succeeds = true))
  | .receive => inferInstanceAs
      (Decidable (state.eventCh.length < eventCapacity))
  | .loseStream => inferInstanceAs (Decidable (state.onStream = []))
  | .openStream | .start _ | .disconnect _ | .finish _ | .cleanUp _
  | .handle => isTrue trivial

variable {state next : State} {call : Nat} {stream : Stream} {label : Label}

theorem onStream_of_eq (current : state.eventStream = some call)
    (found : state.streams[call]? = some stream) :
    state.onStream = stream.carried := by
  simp [State.onStream, current, found]

theorem onStream_setStream (here : call < state.streams.length)
    (stream : Stream) :
    (state.setStream call stream).onStream =
      if state.eventStream = some call then stream.carried
      else state.onStream := by
  simp only [State.onStream, State.setStream]
  cases state.eventStream with
  | none => simp
  | some current =>
      by_cases same : current = call
      · simp [same, here]
      · simp [same, List.getElem?_set_ne (Ne.symm same)]

theorem onStream_cancelStream (state : State) :
    state.cancelStream.onStream = state.onStream := by
  simp only [State.onStream, State.cancelStream]
  cases state.eventStreamCtx with
  | none => rfl
  | some cancelled =>
      cases state.eventStream with
      | none => rfl
      | some current =>
          simp only [Option.bind_some, List.getElem?_modify]
          cases state.streams[current]? with
          | none => rfl
          | some stream =>
              by_cases cancels : cancelled = current
              all_goals simp [cancels, Stream.carried]

theorem length_cancelStream (state : State) :
    state.cancelStream.streams.length = state.streams.length := by
  rw [State.cancelStream]
  cases state.eventStreamCtx with
  | none => rfl
  | some cancelled => exact List.length_modify _ _ _

/-- What a step does to the events: a report adds one at the end, any other
step either keeps what will be handled or loses something underway. -/
inductive Effect (state next : State) : Label → Prop where
  | reported (report : Report)
      (broadcast : next.broadcast = state.broadcast ++ [report.notification])
      (handled : next.handled = state.handled)
      (underway :
        next.underway = state.underway ++ [toEvent report.notification]) :
      Effect state next (.report report)
  | kept {label : Label} (delivers : Delivers state label)
      (broadcast : next.broadcast = state.broadcast)
      (bound : next.bound = state.bound)
      (underway : next.underway.Sublist state.underway) :
      Effect state next label
  | lost {label : Label} (fails : ¬ Delivers state label)
      (broadcast : next.broadcast = state.broadcast)
      (handled : next.handled = state.handled)
      (underway : next.underway.Sublist state.underway)
      (fewer : next.underway.length < state.underway.length) :
      Effect state next label

theorem Effect.of_underway_eq (delivers : Delivers state label)
    (broadcast : next.broadcast = state.broadcast)
    (handled : next.handled = state.handled)
    (underway : next.underway = state.underway) :
    Effect state next label :=
  .kept delivers broadcast (by rw [State.bound, State.bound, handled, underway])
    (by rw [underway])

/-- A move of a call that leaves what it carries, and the channels. -/
theorem Effect.of_carried_eq {other : Stream} (delivers : Delivers state label)
    (found : state.streams[call]? = some stream)
    (carried : other.carried = stream.carried) (context : Option Nat) :
    Effect state
      { state.setStream call other with eventStreamCtx := context } label := by
  have here : call < state.streams.length :=
    (List.getElem?_eq_some_iff.mp found).1
  refine .of_underway_eq delivers rfl rfl ?_
  change state.eventCh ++ (state.setStream call other).onStream ++
    state.eventStreamChan = state.underway
  rw [onStream_setStream here, carried]
  split_ifs with current
  · rw [← onStream_of_eq current found, State.underway]
  · rfl

/-- A move of a call that drops what it holds. -/
theorem Effect.of_dropped {other : Stream} (event : Event)
    (found : state.streams[call]? = some stream)
    (carried : stream.carried = other.carried ++ [event])
    (decides : Delivers state label ↔ state.eventStream ≠ some call) :
    Effect state (state.setStream call other) label := by
  have here : call < state.streams.length :=
    (List.getElem?_eq_some_iff.mp found).1
  have onStream := onStream_setStream here other
  by_cases current : state.eventStream = some call
  · have before := onStream_of_eq current found
    rw [if_pos current] at onStream
    have underway : (state.setStream call other).underway =
        state.eventCh ++ other.carried ++ state.eventStreamChan := by
      rw [State.underway, onStream]
      rfl
    refine .lost (fun delivers => decides.mp delivers current) rfl rfl ?_ ?_
    · rw [underway, State.underway, before, carried]
      exact ((List.sublist_append_left _ _).append_left _).append_right _
    · rw [underway, State.underway, before, carried]
      simp
  · rw [if_neg current] at onStream
    refine .of_underway_eq (decides.mpr current) rfl rfl ?_
    rw [State.underway, onStream]
    rfl

theorem streamStep_effect (named : label.call state = some call)
    (found : state.streams[call]? = some stream)
    (taken : streamStep state call stream label = some next) :
    Effect state next label := by
  have here : call < state.streams.length :=
    (List.getElem?_eq_some_iff.mp found).1
  cases label with
  | start other =>
      simp only [streamStep] at taken
      split_ifs at taken with starting
      cases taken
      refine .of_underway_eq trivial rfl rfl ?_
      change state.eventCh ++ (state.cancelStream.setStream call
        { stream with point := .selecting }).onStream ++
          state.eventStreamChan = state.underway
      have inside : call < state.cancelStream.streams.length := by
        rw [length_cancelStream]
        exact here
      rw [State.underway, onStream_setStream inside, onStream_cancelStream]
      split_ifs with current
      · change state.eventStream = some call at current
        simp [onStream_of_eq current found, Stream.carried, starting,
          StreamPoint.holding]
      · rfl
  | take other =>
      obtain rfl := Option.some.inj named
      simp only [streamStep] at taken
      split at taken
      · rename_i event rest selecting waiting
        cases taken
        have onStream := onStream_setStream here
          { stream with point := .checking event }
        have underway : ∀ carried, (state.setStream other
            { stream with point := .checking event }).onStream = carried →
              State.underway { state.setStream other
                { stream with point := .checking event } with
                  eventStreamChan := rest } =
                state.eventCh ++ carried ++ rest := by
          rintro _ rfl
          rfl
        by_cases current : state.eventStream = some other
        · rw [if_pos current] at onStream
          refine .of_underway_eq current rfl rfl ?_
          rw [underway _ onStream, State.underway,
            onStream_of_eq current found, waiting]
          simp [Stream.carried, selecting, StreamPoint.holding]
        · rw [if_neg current] at onStream
          refine .lost current rfl rfl ?_ ?_
          · rw [underway _ onStream, State.underway, waiting]
            exact (List.sublist_cons_self event rest).append_left _
          · rw [underway _ onStream, State.underway, waiting]
            simp
      · cases taken
  | check other =>
      obtain rfl := Option.some.inj named
      simp only [streamStep] at taken
      split at taken
      · rename_i event checking
        cases taken
        by_cases active : state.eventStreamCtx = some other
        · rw [if_pos active]
          refine .of_carried_eq ?_ found ?_ state.eventStreamCtx
          · exact fun _ => active
          · simp [Stream.carried, checking, StreamPoint.holding]
        · rw [if_neg active]
          refine .of_dropped event found ?_ ?_
          · simp [Stream.carried, checking, StreamPoint.holding]
          · simp [Delivers, active]
      · cases taken
  | send other succeeds =>
      obtain rfl := Option.some.inj named
      simp only [streamStep] at taken
      split at taken
      · rename_i event sending
        cases taken
        cases succeeds with
        | true =>
            refine .of_carried_eq ?_ found ?_ state.eventStreamCtx
            · exact fun _ => rfl
            · simp [Stream.carried, sending, StreamPoint.holding]
        | false =>
            refine .of_dropped event found ?_ ?_
            · simp [Stream.carried, sending, StreamPoint.holding]
            · simp [Delivers]
      · cases taken
  | disconnect other =>
      cases taken
      refine .of_carried_eq ?_ found ?_ state.eventStreamCtx
      · trivial
      · rfl
  | finish other =>
      simp only [streamStep] at taken
      split_ifs at taken with ends
      cases taken
      refine .of_carried_eq ?_ found ?_ state.eventStreamCtx
      · trivial
      · simp [Stream.carried, ends.1, StreamPoint.holding]
  | cleanUp other =>
      simp only [streamStep] at taken
      split at taken
      · rename_i cleaning
        cases taken
        refine .of_carried_eq ?_ found ?_ _
        · trivial
        · simp [Stream.carried, cleaning, StreamPoint.holding]
      · cases taken
  | receive =>
      replace named : state.eventStream = some call := named
      simp only [streamStep] at taken
      split at taken
      · cases taken
      · rename_i event rest sent
        cases taken
        have onStream := onStream_setStream here
          { stream with inTransit := rest }
        rw [if_pos named] at onStream
        have before : state.underway = state.eventCh ++
            (event :: rest ++ stream.point.holding) ++
              state.eventStreamChan := by
          rw [State.underway, onStream_of_eq named found, Stream.carried, sent]
        have underway : ∀ received, State.underway
            { state.setStream call { stream with inTransit := rest } with
              eventCh := received } =
              received ++ (rest ++ stream.point.holding) ++
                state.eventStreamChan := by
          intro received
          change received ++ (state.setStream call
            { stream with inTransit := rest }).onStream ++ _ = _
          rw [onStream]
          rfl
        by_cases room : state.eventCh.length < eventCapacity
        · rw [if_pos room]
          refine .of_underway_eq room rfl rfl ?_
          rw [underway, before]
          simp
        · rw [if_neg room]
          refine .lost room rfl rfl ?_ ?_
          · rw [underway, before]
            exact ((List.sublist_cons_self _ _).append_left _).append_right _
          · rw [underway, before]
            simp
  | report | openStream | loseStream | handle => cases named

theorem step_effect (taken : step state label = some next) :
    Effect state next label := by
  have ofStream : ∀ {label : Label}, (do
      let call ← label.call state
      let stream ← state.streams[call]?
      streamStep state call stream label) = some next →
        Effect state next label := by
    intro label taken
    obtain ⟨call, named, taken⟩ := Option.bind_eq_some_iff.mp taken
    obtain ⟨stream, found, taken⟩ := Option.bind_eq_some_iff.mp taken
    exact streamStep_effect named found taken
  cases label with
  | report report =>
      simp only [step] at taken
      split_ifs at taken
      cases taken
      refine .reported report rfl rfl ?_
      simp [State.underway, State.onStream]
  | openStream =>
      simp only [step] at taken
      split_ifs at taken with apart
      cases taken
      refine .of_underway_eq trivial rfl rfl ?_
      simp [State.underway, State.onStream, apart, Stream.carried,
        StreamPoint.holding]
  | loseStream =>
      simp only [step] at taken
      split_ifs at taken
      cases taken
      have underway : State.underway { state with eventStream := none } =
          state.eventCh ++ [] ++ state.eventStreamChan := rfl
      by_cases empty : state.onStream = []
      · refine .of_underway_eq empty rfl rfl ?_
        rw [underway, State.underway, empty]
      · refine .lost empty rfl rfl ?_ ?_
        · rw [underway, State.underway]
          exact ((List.nil_sublist _).append_left _).append_right _
        · have := List.length_pos_iff.mpr empty
          rw [underway, State.underway]
          simp only [List.length_append, List.length_nil]
          omega
  | handle =>
      simp only [step] at taken
      split at taken
      · cases taken
      · rename_i event rest waiting
        cases taken
        have underway : state.underway =
            event :: (rest ++ state.onStream ++ state.eventStreamChan) := by
          rw [State.underway, waiting]
          rfl
        have after : ∀ handled, State.underway
            { state with eventCh := rest, handled := handled } =
              rest ++ state.onStream ++ state.eventStreamChan := fun _ => rfl
        refine .kept trivial rfl ?_ ?_
        · rw [State.bound, State.bound, underway, after, List.filterMap_cons]
          cases handleEvent event with
          | none => simp
          | some notification => simp
        · rw [underway, after]
          exact List.sublist_cons_self _ _
  | start | take | check | send | disconnect | finish | cleanUp | receive =>
      exact ofStream taken

/-- Every event underway came from a report, and none was invented. -/
structure Accounted (state : State) : Prop where
  readable : ∀ event ∈ state.underway, (handleEvent event).isSome
  atMost : state.bound.length ≤ state.broadcast.length

theorem length_filterMap_handleEvent {events : List Event}
    (readable : ∀ event ∈ events, (handleEvent event).isSome) :
    (events.filterMap handleEvent).length = events.length :=
  List.filterMap_length_eq_length.mpr readable

theorem Effect.length_bound_lt (accounted : Accounted state)
    (handled : next.handled = state.handled)
    (underway : next.underway.Sublist state.underway)
    (fewer : next.underway.length < state.underway.length) :
    next.bound.length < state.bound.length := by
  rw [State.bound, State.bound, handled, List.length_append,
    List.length_append, length_filterMap_handleEvent accounted.readable,
    length_filterMap_handleEvent
      fun event member => accounted.readable event (underway.subset member)]
  omega

theorem bound_reported {report : Report} (handled : next.handled = state.handled)
    (underway :
      next.underway = state.underway ++ [toEvent report.notification]) :
    next.bound = state.bound ++ [report.notification.withoutStreaming] := by
  rw [State.bound, State.bound, handled, underway, List.filterMap_append,
    List.append_assoc]
  simp [handleEvent_toEvent]

theorem Accounted.step (accounted : Accounted state)
    (taken : step state label = some next) : Accounted next := by
  cases step_effect taken with
  | reported report broadcast handled underway =>
      refine ⟨fun event member => ?_, ?_⟩
      · rw [underway, List.mem_append, List.mem_singleton] at member
        rcases member with member | rfl
        · exact accounted.readable event member
        · rw [handleEvent_toEvent]
          rfl
      · have := accounted.atMost
        rw [bound_reported handled underway, broadcast]
        simpa using this
  | kept delivers broadcast bound underway =>
      refine ⟨fun event member =>
        accounted.readable event (underway.subset member), ?_⟩
      rw [bound, broadcast]
      exact accounted.atMost
  | lost fails broadcast handled underway fewer =>
      refine ⟨fun event member =>
        accounted.readable event (underway.subset member), ?_⟩
      have := Effect.length_bound_lt accounted handled underway fewer
      have := accounted.atMost
      rw [broadcast]
      omega

/-- Whether all that was broadcast is going to be handled is up to the steps
that do not deliver. -/
theorem bound_eq_broadcast_step (accounted : Accounted state)
    (taken : step state label = some next) :
    next.bound = next.broadcast ↔
      state.bound = state.broadcast ∧ Delivers state label := by
  cases step_effect taken with
  | reported report broadcast handled underway =>
      rw [bound_reported handled underway, broadcast,
        List.append_singleton_inj, withoutStreaming_eq_iff]
      rfl
  | kept delivers broadcast bound underway =>
      rw [bound, broadcast]
      exact (and_iff_left delivers).symm
  | lost fails broadcast handled underway fewer =>
      have shorter := Effect.length_bound_lt accounted handled underway fewer
      have atMost := accounted.atMost
      refine iff_of_false (fun same => ?_) fun both => fails both.2
      rw [broadcast] at same
      rw [same] at shorter
      omega

theorem accounted_initial : Accounted {} :=
  ⟨fun _ member => absurd member List.not_mem_nil, Nat.le_refl _⟩

def StreamPoint.serves : StreamPoint → Bool
  | .selecting | .checking _ | .sending _ => true
  | _ => false

/-- The client receives from this call of `StreamEvents`, which is the active
one of the server. -/
structure Serving (state : State) (call : Nat) (stream : Stream) : Prop where
  current : state.eventStream = some call
  active : state.eventStreamCtx = some call
  found : state.streams[call]? = some stream
  undone : stream.done = false
  serves : stream.point.serves = true

def State.Connected (state : State) : Prop :=
  ∃ call stream, Serving state call stream

/-- The moves left for an event where the call stands -/
def StreamPoint.moves : StreamPoint → Nat
  | .checking _ => 4
  | .sending _ => 3
  | _ => 0

/-- The moves left until everything underway is handled -/
def State.moves (state : State) (stream : Stream) : Nat :=
  5 * state.eventStreamChan.length + stream.point.moves +
    2 * stream.inTransit.length + state.eventCh.length

theorem Serving.setStream (serving : Serving state call stream)
    {other : Stream} (undone : other.done = false)
    (serves : other.point.serves = true)
    (streams : next.streams = (state.setStream call other).streams)
    (current : next.eventStream = state.eventStream)
    (active : next.eventStreamCtx = state.eventStreamCtx) :
    Serving next call other where
  current := current.trans serving.current
  active := active.trans serving.active
  found := by
    have here := (List.getElem?_eq_some_iff.mp serving.found).1
    rw [streams, State.setStream, List.getElem?_set_self here]
  undone := undone
  serves := serves

theorem step_of_found (named : label.call state = some call)
    (found : state.streams[call]? = some stream) :
    step state label = streamStep state call stream label := by
  cases label with
  | report | openStream | loseStream | handle => cases named
  | start | take | check | send | disconnect | finish | cleanUp | receive =>
      simp only [step, named, found, Option.bind_eq_bind, Option.bind_some]

/-- A stream that stays connected has a next move for what is underway, and
loses nothing by it. -/
theorem Serving.advance (serving : Serving state call stream)
    (busy : state.underway ≠ []) :
    ∃ label next other, step state label = some next ∧
      Delivers state label ∧ Serving next call other ∧
      next.broadcast = state.broadcast ∧
      next.moves other < state.moves stream := by
  have current := serving.current
  have active := serving.active
  have found := serving.found
  have undone := serving.undone
  cases waiting : state.eventCh with
  | cons event rest =>
      refine ⟨.handle, { state with
          eventCh := rest
          handled := state.handled ++ (handleEvent event).toList },
        stream, ?_, trivial, ?_, rfl, ?_⟩
      · simp only [step, waiting]
      · exact ⟨current, active, found, undone, serving.serves⟩
      · simp only [State.moves, waiting, List.length_cons]
        omega
  | nil =>
  cases point : stream.point with
  | checking event =>
      refine ⟨.check call,
        state.setStream call { stream with point := .sending event },
        { stream with point := .sending event }, ?_, ?_, ?_, rfl, ?_⟩
      · rw [step_of_found rfl found]
        simp only [streamStep, point, if_pos active]
      · exact fun _ => active
      · exact serving.setStream undone rfl rfl rfl rfl
      · simp [State.moves, StreamPoint.moves, point, State.setStream]
  | sending event =>
      refine ⟨.send call true,
        state.setStream call { stream with
          point := .selecting
          inTransit := stream.inTransit ++ [event] },
        { stream with
          point := .selecting
          inTransit := stream.inTransit ++ [event] }, ?_, ?_, ?_, rfl, ?_⟩
      · rw [step_of_found rfl found]
        simp only [streamStep, point, if_true]
      · exact fun _ => rfl
      · exact serving.setStream undone rfl rfl rfl rfl
      · simp only [State.moves, StreamPoint.moves, point, State.setStream,
          List.length_append, List.length_singleton]
        omega
  | selecting =>
      cases sent : stream.inTransit with
      | cons event rest =>
          refine ⟨.receive,
            { state.setStream call { stream with inTransit := rest } with
              eventCh := state.eventCh ++ [event] },
            { stream with inTransit := rest }, ?_, ?_, ?_, rfl, ?_⟩
          · have named : Label.receive.call state = some call := current
            rw [step_of_found named found]
            simp [streamStep, sent, waiting, eventCapacity]
          · simp [Delivers, waiting, eventCapacity]
          · exact serving.setStream undone serving.serves rfl rfl rfl
          · simp only [State.moves, State.setStream, sent, waiting,
              List.length_append, List.length_cons, List.length_nil]
            omega
      | nil =>
          have none : state.onStream = [] := by
            rw [onStream_of_eq current found, Stream.carried, sent, point]
            rfl
          cases queued : state.eventStreamChan with
          | nil =>
              rw [State.underway, waiting, none, queued] at busy
              exact absurd rfl busy
          | cons event rest =>
              refine ⟨.take call,
                { state.setStream call
                    { stream with point := .checking event } with
                  eventStreamChan := rest },
                { stream with point := .checking event },
                ?_, current, ?_, rfl, ?_⟩
              · rw [step_of_found rfl found]
                simp only [streamStep, point, queued]
              · exact serving.setStream undone rfl rfl rfl rfl
              · simp only [State.moves, State.setStream, StreamPoint.moves,
                  point, queued, List.length_cons]
                omega
  | starting | cleaning | returned =>
      have serves := serving.serves
      rw [point] at serves
      cases serves

/-- While the stream stays connected, all that is underway can be handled. -/
theorem Serving.drains (serving : Serving state call stream) :
    ∃ more final, exec step state more = some final ∧
      AllStates step State.Connected state more ∧
      AllSteps step Delivers state more ∧
      final.underway = [] ∧ final.broadcast = state.broadcast := by
  generalize measured : state.moves stream = moves
  induction moves using Nat.strongRecOn generalizing state stream with
  | _ moves ih =>
      by_cases busy : state.underway = []
      · exact ⟨[], state, rfl, ⟨call, stream, serving⟩, trivial, busy, rfl⟩
      · obtain ⟨label, next, other, taken, delivers, later, same, fewer⟩ :=
          serving.advance busy
        obtain ⟨more, final, reaches, connected, delivering, drained, kept⟩ :=
          ih _ (measured ▸ fewer) later rfl
        refine ⟨label :: more, final, ?_, ?_, ?_, drained, kept.trans same⟩
        · rw [exec_cons_of_step more taken, reaches]
        · rw [allStates_cons_iff_of_step taken]
          exact ⟨⟨call, stream, serving⟩, connected⟩
        · exact allSteps_cons_of_step taken delivers delivering

def Notification.videoState : Notification → Option VideoState
  | .videoStateChange state => some state
  | _ => none

def lastVideoState (notifications : List Notification) : Option VideoState :=
  (notifications.filterMap Notification.videoState).getLast?

/-- What is handled is what was broadcast. -/
structure Faithful (state : State) : Prop where
  events : state.handled = state.broadcast
  lastState : lastVideoState state.handled = lastVideoState state.broadcast

theorem faithful_iff_bound_eq (drained : state.underway = []) :
    Faithful state ↔ state.bound = state.broadcast := by
  have bound : state.bound = state.handled := by
    rw [State.bound, drained, List.filterMap_nil, List.append_nil]
  rw [bound]
  exact ⟨Faithful.events, fun same => ⟨same, by rw [same]⟩⟩

/-- A stream that stays connected can bring everything underway to the client.
Once nothing is underway, the notifications handled are those broadcast if and
only if every step delivered. -/
theorem faithful_iff_delivers {labels : List Label} {last : State}
    (reaches : exec step {} labels = some last) :
    (last.Connected → ∃ more final, exec step last more = some final ∧
      AllStates step State.Connected last more ∧ AllSteps step Delivers last more ∧
      final.underway = [] ∧ final.broadcast = last.broadcast) ∧
    (last.underway = [] →
      (Faithful last ↔ AllSteps step Delivers {} labels)) := by
  refine ⟨fun ⟨call, stream, serving⟩ => serving.drains, fun drained => ?_⟩
  rw [faithful_iff_bound_eq drained,
    last_iff_allSteps Accounted.step bound_eq_broadcast_step
      accounted_initial reaches]
  exact and_iff_right rfl

/-- A video state as the C side reports it while the video is inactive. -/
def fullHd : JetkvmVideoState where
  ready := true
  streaming := 0
  error := none
  width := 1920
  height := 1080
  framePerSecond := 0x404E000000000000

/-- A call is made, two events are reported and both are handled. -/
def twoEvents : List Label :=
  [.openStream, .start 0, .report (.rpc "resume"), .report (.videoState fullHd),
    .take 0, .check 0, .send 0 true, .receive, .take 0, .handle, .check 0,
    .send 0 true, .receive, .handle]

def twoEventsHandled : State where
  streams := [{ point := .selecting }]
  eventStreamCtx := some 0
  eventStream := some 0
  broadcast := [.rpcEvent "resume", .videoStateChange (goVideoState fullHd)]
  handled := [.rpcEvent "resume", .videoStateChange (goVideoState fullHd)]

theorem twoEvents_faithful :
    exec step {} twoEvents = some twoEventsHandled ∧
      twoEventsHandled.Connected ∧ Faithful twoEventsHandled := by
  have reaches : exec step {} twoEvents = some twoEventsHandled := by decide
  refine ⟨reaches, ⟨0, { point := .selecting }, by constructor <;> rfl⟩, ?_⟩
  exact ((faithful_iff_delivers reaches).2 rfl).mpr (by decide)

/-- A video state reported while the video is active. -/
def activeState : List Label :=
  [.openStream, .start 0, .report (.videoState { fullHd with streaming := 1 }),
    .take 0, .check 0, .send 0 true, .receive, .handle]

def activeStateHandled : State where
  streams := [{ point := .selecting }]
  eventStreamCtx := some 0
  eventStream := some 0
  broadcast := [.videoStateChange (goVideoState { fullHd with streaming := 1 })]
  handled := [.videoStateChange (goVideoState fullHd)]

theorem activeState_not_faithful :
    ¬ ∀ (labels : List Label) (last : State),
      exec step {} labels = some last → last.Connected →
        last.underway = [] → Faithful last := by
  intro claimed
  have reaches : exec step {} activeState = some activeStateHandled := by
    decide
  have connected : activeStateHandled.Connected :=
    ⟨0, { point := .selecting }, by constructor <;> rfl⟩
  have faithful := claimed activeState activeStateHandled reaches connected rfl
  exact absurd faithful.events (by decide)

end NativeEvents

end JetKvm
