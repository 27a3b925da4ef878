import JetKvm.HidRpcDispatch
import JetKvm.KeyboardMacroCancellation

/-!
# Macros and cancels on the queues of a session

The messages of one session are put on the queue of their type, in the order
they were sent, and each queue has a worker.  The worker of the keyboard queue
executes a macro before it takes its next message; a cancel is on another queue
and may overtake the macro it was sent after.

Macros are numbered in the order they are sent, which is the order in which
they are executed.
-/

namespace JetKvm

namespace KeyboardMacro

namespace Queues

open LabelledRuns

/-- A message with the number of macros sent before it. -/
structure Queued where
  data : Slice UInt8
  macrosBefore : Nat
  deriving DecidableEq, Repr

/-- `executing` is the macro the worker of a queue executes.  `missed` and
`caught` are the unfinished macros of which a cancel sent after them has been
processed, before and after their cancel function was installed. -/
structure State where
  macrosSent : Nat := 0
  hidQueue : Nat → List Queued := fun _ => []
  executing : Nat → Option Nat := fun _ => none
  macros : Macros := {}
  missed : List Nat := []
  caught : List Nat := []

/-- A message of the session arrives, a worker takes its next message, or the
execution of a macro goes on. -/
inductive Label where
  | receive (isString : Bool) (data : Slice UInt8)
  | handle (queue : Nat)
  | install (id : Nat)
  | report (id : Nat) (report : HidReport)
  | sleepCompleted (id : Nat)
  | sleepCancelled (id : Nat) (report : HidReport)
  | stepsDone (id : Nat)
  | uninstall (id : Nat)
  deriving DecidableEq, Repr

/-- The queue of keyboard reports and macros. -/
def keyboardQueueIndex : Nat := 1

/-- Handling the message executes a macro. -/
def executesMacro (data : Slice UInt8) : Bool :=
  match HidRpc.onHidMessage false data with
  | .ok (.call (.executeKeyboardMacro _)) => true
  | _ => false

/-- Note which macro a processed cancel was sent after. -/
def State.recordCancel (state : State) : Nat → State
  | 0 => state
  | id + 1 =>
      match state.macros.executions[id]? with
      | none => { state with missed := id :: state.missed }
      | some ⟨.starting _, _⟩ => { state with missed := id :: state.missed }
      | some ⟨.typing (_ :: _), _⟩ => { state with caught := id :: state.caught }
      | some ⟨.sleeping _, _⟩ => { state with caught := id :: state.caught }
      -- the macro has nothing left to type
      | some _ => state

/-- A step of the execution a worker is in. -/
def State.proceed (state : State) (label : Macros.Label) : Option State :=
  match state.macros.step label with
  | none => none
  | some macros => some { state with macros := macros }

def step (state : State) : Label → Option State
  | .receive isString data =>
      match HidRpc.onDataChannelMessage isString data with
      | .error _ => none
      | .ok none => some state
      | .ok (some queue) =>
          -- the send blocks while the queue is full
          if (state.hidQueue queue).length < HidRpc.hidQueueSize then
            some { state with
              hidQueue := Function.update state.hidQueue queue
                (state.hidQueue queue ++ [⟨data, state.macrosSent⟩])
              macrosSent := state.macrosSent + (executesMacro data).toNat }
          else none
  | .handle queue =>
      match state.executing queue, state.hidQueue queue with
      | none, message :: rest =>
          let taken :=
            { state with hidQueue := Function.update state.hidQueue queue rest }
          match HidRpc.onHidMessage false message.data with
          | .error _ => none
          | .ok (.call (.executeKeyboardMacro steps)) =>
              some { taken with
                macros := state.macros.cancelKeyboardMacro.begin steps
                executing := Function.update state.executing queue
                  (some state.macros.executions.length) }
          | .ok (.call .cancelKeyboardMacro) =>
              some { taken.recordCancel message.macrosBefore with
                macros := state.macros.cancelKeyboardMacro }
          | .ok _ => some taken
      | _, _ => none
  | .install id => state.proceed (.install id)
  | .report id report => state.proceed (.report id report)
  | .sleepCompleted id => state.proceed (.sleepCompleted id)
  | .sleepCancelled id report => state.proceed (.sleepCancelled id report)
  | .stepsDone id => state.proceed (.stepsDone id)
  | .uninstall id =>
      match state.proceed (.uninstall id) with
      | none => none
      | some next =>
          some { next with
            executing := fun queue =>
              if state.executing queue = some id then none
              else state.executing queue }

/-- The macro has typed all its steps. -/
def State.Typed (state : State) : Nat → Prop :=
  state.macros.Has fun execution => execution.phase = .typing []

/-- The step does not bring the last macro to its end after a cancel that was
sent after it has been processed. -/
def CancelKept (state : State) (label : Label) : Prop :=
  ∀ next id, step state label = some next →
    id ∈ state.missed ∨ id ∈ state.caught → id + 1 = state.macrosSent →
      next.Typed id → state.Typed id

/-- A last macro that comes to its end has had its cancel function installed
when a cancel sent after it was processed, and its last sleep does not outrun
its cancelled context. -/
def CancelledInTime (state : State) : Label → Prop
  | .install id =>
      state.macros.Has (fun execution => execution.phase = .starting []) id →
        id + 1 = state.macrosSent → id ∉ state.missed
  | .sleepCompleted id =>
      ∀ cancelled, state.macros.executions[id]? = some ⟨.sleeping [], cancelled⟩ →
        id + 1 = state.macrosSent →
          id ∉ state.missed ∧ (id ∈ state.caught → cancelled = false)
  | _ => True

/-! ## Steps of an execution -/

section Executions

variable {macros next : Macros} {id : Nat} {label : Macros.Label}

/-- A cancelled context stays cancelled. -/
theorem cancelled_of_effect (effect : Macros.Effect macros label next)
    (cancelled : macros.Has (·.cancelled = true) id) :
    next.Has (·.cancelled = true) id := by
  have afterPhase : ∀ {other : Nat} {execution : Execution} {phase : Phase},
      macros.executions[other]? = some execution →
        (macros.setPhase other phase).Has (·.cancelled = true) id := by
    intro other execution phase found
    rw [Macros.has_setPhase_iff found]
    split_ifs with same
    · subst same
      obtain ⟨same, found', isCancelled⟩ := cancelled
      obtain rfl := Option.some.inj (found.symm.trans found')
      exact isCancelled
    · exact cancelled
  have afterCancel : macros.cancelKeyboardMacro.Has (·.cancelled = true) id := by
    rw [Macros.has_cancelKeyboardMacro_iff]
    split_ifs
    · exact cancelled.imp fun _ has => ⟨has.1, rfl⟩
    · exact cancelled
  cases effect with
  | execute steps => exact Macros.has_begin_iff.mpr (.inl afterCancel)
  | install found => exact afterPhase found
  | progress phase tracked found => exact afterPhase found
  | uninstall found => exact afterPhase found
  | cancel => exact afterCancel

/-- An execution that has not returned has not been there before only if it is
new. -/
theorem unreturned_of_effect (effect : Macros.Effect macros label next)
    (unreturned : next.Has (·.phase ≠ .returned) id) :
    macros.Has (·.phase ≠ .returned) id ∨
      (∃ steps, label = .execute steps) ∧ id = macros.executions.length := by
  have beforePhase : ∀ {other : Nat} {execution : Execution} {phase : Phase},
      macros.executions[other]? = some execution →
        execution.phase ≠ .returned →
          (macros.setPhase other phase).Has (·.phase ≠ .returned) id →
            macros.Has (·.phase ≠ .returned) id := by
    intro other execution phase found here has
    have has := (Macros.has_setPhase_iff found).mp has
    split_ifs at has with same
    · exact same ▸ ⟨execution, found, here⟩
    · exact has
  have beforeCancel : macros.cancelKeyboardMacro.Has (·.phase ≠ .returned) id →
      macros.Has (·.phase ≠ .returned) id := by
    intro has
    have has := Macros.has_cancelKeyboardMacro_iff.mp has
    split_ifs at has <;> exact has
  cases effect with
  | execute steps =>
      rcases Macros.has_begin_iff.mp unreturned with old | ⟨new, -⟩
      · exact .inl (beforeCancel old)
      · exact .inr ⟨⟨steps, rfl⟩, new.trans macros.length_cancelKeyboardMacro⟩
  | install found => exact .inl (beforePhase found nofun unreturned)
  | progress phase tracked found running =>
      refine .inl (beforePhase found ?_ unreturned)
      intro isReturned
      rw [isReturned] at running
      exact running
  | uninstall found => exact .inl (beforePhase found nofun unreturned)
  | cancel => exact .inl (beforeCancel unreturned)

/-- A macro comes to its end when it is installed without steps or when its
last sleep is over. -/
theorem typed_of_step (taken : macros.step label = some next)
    (typed : next.Has (·.phase = .typing []) id) :
    macros.Has (·.phase = .typing []) id ∨
    (label = .install id ∧ macros.Has (·.phase = .starting []) id) ∨
    (label = .sleepCompleted id ∧
      ∃ cancelled, macros.executions[id]? = some ⟨.sleeping [], cancelled⟩) := by
  have byPhase : ∀ {other : Nat} {execution : Execution} {phase : Phase},
      macros.executions[other]? = some execution →
        (macros.setPhase other phase).Has (·.phase = .typing []) id →
          macros.Has (·.phase = .typing []) id ∨
            other = id ∧ phase = .typing [] := by
    intro other execution phase found has
    have has := (Macros.has_setPhase_iff found).mp has
    split_ifs at has with same
    · exact .inr ⟨same, has⟩
    · exact .inl has
  have beforeCancel : macros.cancelKeyboardMacro.Has (·.phase = .typing []) id →
      macros.Has (·.phase = .typing []) id := by
    intro has
    have has := Macros.has_cancelKeyboardMacro_iff.mp has
    split_ifs at has <;> exact has
  cases Macros.taken_of_step taken with
  | execute steps =>
      rcases Macros.has_begin_iff.mp typed with old | ⟨-, isTyping⟩
      · exact .inl (beforeCancel old)
      · cases isTyping
  | install found =>
      rcases byPhase found typed with old | ⟨rfl, isTyping⟩
      · exact .inl old
      · cases isTyping
        exact .inr (.inl ⟨rfl, _, found, rfl⟩)
  | report found report =>
      unfold Macros.typeStep at typed
      dsimp only at typed
      split_ifs at typed <;>
        rcases byPhase found typed with old | ⟨-, isTyping⟩ <;>
        first
        | exact .inl old
        | cases isTyping
  | sleepCompleted found =>
      rcases byPhase found typed with old | ⟨rfl, isTyping⟩
      · exact .inl old
      · cases isTyping
        exact .inr (.inr ⟨rfl, _, found⟩)
  | sleepCancelled found _ | stepsDone found | uninstall found =>
      rcases byPhase found typed with old | ⟨-, isTyping⟩
      · exact .inl old
      · cases isTyping
  | cancelKeyboardMacro => exact .inl (beforeCancel typed)

theorem uninstall_step (taken : macros.step (.uninstall id) = some next) :
    ∃ cancelled, macros.executions[id]? = some ⟨.returning, cancelled⟩ ∧
      next = (macros.setPhase id .returned).setKeyboardMacroCancel none := by
  cases Macros.taken_of_step taken with
  | uninstall found => exact ⟨_, found, rfl⟩

/-- A cancellation reaches every installed execution that is typing. -/
theorem cancelled_of_running (controlled : macros.Controlled)
    (running : macros.Has (·.phase.IsRunning) id) :
    macros.cancelKeyboardMacro.Has (·.cancelled = true) id := by
  obtain ⟨⟨phase, cancelled⟩, found, isRunning⟩ := running
  rw [Macros.has_cancelKeyboardMacro_iff]
  cases cancelled with
  | true =>
      split_ifs
      · exact ⟨_, found, rfl⟩
      · exact ⟨_, found, rfl⟩
  | false =>
      rw [if_pos (controlled.cancellable ⟨_, found, rfl, isRunning⟩)]
      exact ⟨_, found, rfl⟩

end Executions

/-! ## Which queue a macro is on -/

theorem executesMacro_iff {data : Slice UInt8} :
    executesMacro data = true ↔
      ∃ steps, HidRpc.onHidMessage false data =
        .ok (.call (.executeKeyboardMacro steps)) := by
  unfold executesMacro
  split
  · rename_i steps handled
    simp [handled]
  · rename_i other
    simpa using fun steps handled => other steps handled

theorem queue_of_executesMacro {isString : Bool} {data : Slice UInt8}
    {queue : Nat}
    (queued : HidRpc.onDataChannelMessage isString data = .ok (some queue))
    (executes : executesMacro data = true) : queue = keyboardQueueIndex := by
  obtain ⟨steps, handled⟩ := executesMacro_iff.mp executes
  obtain ⟨elements, spare⟩ := data
  cases elements with
  | nil => cases handled
  | cons t payload =>
      rw [HidRpc.onHidMessage_cons] at handled
      obtain rfl : t = HidRpc.typeKeyboardMacroReport :=
        HidRpc.type_of_call handled
      cases isString with
      | true => cases queued
      | false =>
          cases queued
          rfl

/-! ## Macros are executed one by one, in the order they were sent -/

variable {state next : State} {label : Label}

theorem recordCancel_frame (count : Nat) :
    (state.recordCancel count).macrosSent = state.macrosSent ∧
      (state.recordCancel count).hidQueue = state.hidQueue ∧
      (state.recordCancel count).executing = state.executing ∧
      (state.recordCancel count).macros = state.macros := by
  unfold State.recordCancel
  (repeat' split) <;> exact ⟨rfl, rfl, rfl, rfl⟩

theorem mem_caught_recordCancel {count id : Nat}
    (caught : id ∈ (state.recordCancel count).caught) :
    id ∈ state.caught ∨ state.macros.Has (·.phase.IsRunning) id := by
  unfold State.recordCancel at caught
  split at caught
  · exact .inl caught
  · split at caught
    · exact .inl caught
    · exact .inl caught
    · rename_i found
      rcases List.mem_cons.mp caught with rfl | old
      · exact .inr ⟨_, found, trivial⟩
      · exact .inl old
    · rename_i found
      rcases List.mem_cons.mp caught with rfl | old
      · exact .inr ⟨_, found, trivial⟩
      · exact .inl old
    · exact .inl caught

/-- The queued macros carry the numbers after those of the executed ones. -/
def State.Numbered (state : State) : Prop :=
  ∃ count, state.macrosSent = state.macros.executions.length + count ∧
    ((state.hidQueue keyboardQueueIndex).filter
        fun message => executesMacro message.data).map Queued.macrosBefore =
      List.range' state.macros.executions.length count

/-- Only the worker of the keyboard queue executes macros, one at a time, and a
caught macro has been cancelled. -/
structure State.Sound (state : State) : Prop where
  macros : state.macros.Invariant
  sequential : ∀ {id}, state.macros.Has (·.phase ≠ .returned) id →
    state.executing keyboardQueueIndex = some id
  queued : ∀ queue, ∀ message ∈ state.hidQueue queue,
    executesMacro message.data = true → queue = keyboardQueueIndex
  caught : ∀ id ∈ state.caught, state.macros.Has (·.cancelled = true) id
  numbered : state.Numbered

theorem State.Sound.initial : State.Sound {} where
  macros := Macros.Invariant.initial
  sequential := fun has => (Macros.not_has_initial has).elim
  queued := nofun
  caught := nofun
  numbered := ⟨0, rfl, rfl⟩

namespace State.Sound

theorem notStarting (sound : state.Sound)
    (idle : state.executing keyboardQueueIndex = none) (id : Nat) :
    ¬ state.macros.Starting id := by
  rintro ⟨execution, found, -, starting⟩
  have unreturned : state.macros.Has (·.phase ≠ .returned) id := by
    refine ⟨execution, found, fun isReturned => ?_⟩
    rw [isReturned] at starting
    exact starting
  rw [sound.sequential unreturned] at idle
  cases idle

/-- The only execution that has not returned returns undisturbed. -/
theorem undisturbed_uninstall (sound : state.Sound) {id : Nat} {macros : Macros}
    (taken : state.macros.step (.uninstall id) = some macros) :
    state.macros.Undisturbed (.uninstall id) := by
  obtain ⟨cancelled, found, -⟩ := uninstall_step taken
  rintro other ⟨execution, found', -, running⟩
  have executing := sound.sequential ⟨_, found, nofun⟩
  have otherExecuting : state.executing keyboardQueueIndex = some other := by
    refine sound.sequential ⟨execution, found', fun isReturned => ?_⟩
    rw [isReturned] at running
    exact running
  obtain rfl : id = other :=
    Option.some.inj (executing.symm.trans otherExecuting)
  rw [found] at found'
  obtain rfl := Option.some.inj found'
  exact running

theorem length_of_effect {macros after : Macros} {label : Macros.Label}
    (effect : Macros.Effect macros label after)
    (old : ∀ steps, label ≠ .execute steps) :
    after.executions.length = macros.executions.length := by
  cases effect with
  | execute steps => exact absurd rfl (old steps)
  | cancel => exact macros.length_cancelKeyboardMacro
  | _ => simp [Macros.setPhase, Macros.setKeyboardMacroCancel]

/-- A step of the execution in progress, or of a cancel. -/
theorem proceed (sound : state.Sound) {macros : Macros} {label : Macros.Label}
    (taken : state.macros.step label = some macros)
    (old : ∀ steps, label ≠ .execute steps)
    (undisturbed : state.macros.Undisturbed label) :
    State.Sound { state with macros := macros } := by
  have effect := Macros.effect_of_step taken
  refine ⟨sound.macros.step undisturbed taken, ?_, sound.queued, ?_, ?_⟩
  · intro id unreturned
    rcases unreturned_of_effect effect unreturned with before | ⟨⟨steps, new⟩, -⟩
    · exact sound.sequential before
    · exact absurd new (old steps)
  · intro id caught
    exact cancelled_of_effect effect (sound.caught id caught)
  · have length := length_of_effect effect old
    have numbered := sound.numbered
    unfold State.Numbered at numbered ⊢
    rwa [length]

theorem receive (sound : state.Sound) {isString : Bool} {data : Slice UInt8}
    (taken : step state (.receive isString data) = some next) : next.Sound := by
  simp only [step] at taken
  cases queued : HidRpc.onDataChannelMessage isString data with
  | error panic => simp [queued] at taken
  | ok target =>
      cases target with
      | none =>
          simp only [queued] at taken
          obtain rfl := Option.some.inj taken
          exact sound
      | some queue =>
          simp only [queued] at taken
          split_ifs at taken with room
          obtain rfl := Option.some.inj taken
          have here := queue_of_executesMacro queued
          refine ⟨sound.macros, sound.sequential, ?_, sound.caught, ?_⟩
          · intro other message member executes
            by_cases same : other = queue
            · subst same
              simp only [Function.update_self, List.mem_append,
                List.mem_singleton] at member
              rcases member with old | rfl
              · exact sound.queued other message old executes
              · exact here executes
            · simp only [Function.update_of_ne same] at member
              exact sound.queued other message member executes
          · obtain ⟨count, sent, numbers⟩ := sound.numbered
            cases executes : executesMacro data with
            | false =>
                refine ⟨count, sent, ?_⟩
                by_cases same : keyboardQueueIndex = queue
                · subst same
                  simpa [executes] using numbers
                · simpa [Function.update_of_ne same] using numbers
            | true =>
                obtain rfl := here executes
                refine ⟨count + 1, ?_, ?_⟩
                · simp [sent, Nat.add_assoc]
                · simp [executes, numbers, sent, List.range'_concat]

/-- Taking a message that is no macro from a queue. -/
theorem take (sound : state.Sound) {queue : Nat} {message : Queued}
    {rest : List Queued} (waiting : state.hidQueue queue = message :: rest)
    (other : executesMacro message.data = false) :
    State.Sound
      { state with hidQueue := Function.update state.hidQueue queue rest } := by
  refine ⟨sound.macros, sound.sequential, ?_, sound.caught, ?_⟩
  · intro target waitingMessage member executes
    by_cases same : target = queue
    · subst same
      simp only [Function.update_self] at member
      refine sound.queued target waitingMessage ?_ executes
      exact waiting ▸ List.mem_cons_of_mem message member
    · simp only [Function.update_of_ne same] at member
      exact sound.queued target waitingMessage member executes
  · obtain ⟨count, sent, numbers⟩ := sound.numbered
    refine ⟨count, sent, ?_⟩
    by_cases same : keyboardQueueIndex = queue
    · subst same
      simpa [waiting, other] using numbers
    · simpa [Function.update_of_ne same] using numbers

/-- The keyboard worker begins the next macro. -/
theorem begin (sound : state.Sound) {queue : Nat} {message : Queued}
    {rest : List Queued} (waiting : state.hidQueue queue = message :: rest)
    (idle : state.executing queue = none)
    (executes : executesMacro message.data = true)
    (steps : List HidRpc.KeyboardMacroStep) :
    State.Sound { state with
      hidQueue := Function.update state.hidQueue queue rest
      macros := state.macros.cancelKeyboardMacro.begin steps
      executing := Function.update state.executing queue
        (some state.macros.executions.length) } := by
  have first : message ∈ state.hidQueue queue := by
    rw [waiting]
    exact List.mem_cons_self
  obtain rfl := sound.queued queue message first executes
  have effect : Macros.Effect state.macros (.execute steps)
      (state.macros.cancelKeyboardMacro.begin steps) := .execute steps
  have undisturbed : state.macros.Undisturbed (.execute steps) :=
    sound.notStarting idle
  refine ⟨sound.macros.step undisturbed rfl, ?_, ?_, ?_, ?_⟩
  · intro id unreturned
    rcases unreturned_of_effect effect unreturned with before | ⟨-, rfl⟩
    · rw [sound.sequential before] at idle
      cases idle
    · simp
  · intro target waitingMessage member executes
    by_cases same : target = keyboardQueueIndex
    · exact same
    · simp only [Function.update_of_ne same] at member
      exact sound.queued target waitingMessage member executes
  · intro id caught
    exact cancelled_of_effect effect (sound.caught id caught)
  · obtain ⟨count, sent, numbers⟩ := sound.numbered
    rw [waiting, List.filter_cons_of_pos (by exact executes),
      List.map_cons] at numbers
    cases count with
    | zero => cases numbers
    | succ count =>
        rw [List.range'_succ] at numbers
        refine ⟨count, ?_, ?_⟩
        · simp only [Macros.begin, List.length_append,
            Macros.length_cancelKeyboardMacro, List.length_singleton]
          omega
        · simpa [Macros.begin] using (List.cons.inj numbers).2

/-- A cancel is processed by a worker. -/
theorem cancel (sound : state.Sound) (macrosBefore : Nat) :
    State.Sound { state.recordCancel macrosBefore with
      macros := state.macros.cancelKeyboardMacro } := by
  have taken : state.macros.step .cancelKeyboardMacro =
      some state.macros.cancelKeyboardMacro := rfl
  have after := sound.proceed taken nofun trivial
  obtain ⟨sent, queues, executing, -⟩ := recordCancel_frame macrosBefore
  refine ⟨after.macros, ?_, ?_, ?_, ?_⟩
  · rw [executing]
    exact after.sequential
  · rw [queues]
    exact after.queued
  · intro id caught
    rcases mem_caught_recordCancel caught with old | running
    · exact after.caught id old
    · exact cancelled_of_running sound.macros.controlled running
  · have numbered := after.numbered
    unfold State.Numbered at numbered ⊢
    rwa [sent, queues]

end State.Sound

theorem proceed_eq_some {macroLabel : Macros.Label}
    (taken : state.proceed macroLabel = some next) :
    ∃ macros, state.macros.step macroLabel = some macros ∧
      next = { state with macros := macros } := by
  unfold State.proceed at taken
  cases stepped : state.macros.step macroLabel with
  | none => simp [stepped] at taken
  | some macros =>
      simp only [stepped] at taken
      exact ⟨macros, rfl, (Option.some.inj taken).symm⟩

/-- What handling a message comes to: a macro is begun, a cancel is processed,
or the message does not concern macros. -/
theorem handle_cases {queue : Nat}
    (taken : step state (.handle queue) = some next) :
    ∃ message rest, state.executing queue = none ∧
      state.hidQueue queue = message :: rest ∧
      ((∃ steps, executesMacro message.data = true ∧
          next = { state with
            hidQueue := Function.update state.hidQueue queue rest
            macros := state.macros.cancelKeyboardMacro.begin steps
            executing := Function.update state.executing queue
              (some state.macros.executions.length) }) ∨
        executesMacro message.data = false ∧
          (next = { State.recordCancel
              { state with
                hidQueue := Function.update state.hidQueue queue rest }
              message.macrosBefore with
              macros := state.macros.cancelKeyboardMacro } ∨
            next = { state with
              hidQueue := Function.update state.hidQueue queue rest })) := by
  simp only [step] at taken
  split at taken
  · rename_i message rest idle waiting
    refine ⟨message, rest, idle, waiting, ?_⟩
    split at taken
    · cases taken
    · rename_i steps handled
      exact .inl ⟨steps, executesMacro_iff.mpr ⟨steps, handled⟩,
        (Option.some.inj taken).symm⟩
    · rename_i handled
      refine .inr ⟨?_, .inl (Option.some.inj taken).symm⟩
      simp [executesMacro, handled]
    · rename_i handled notMacro notCancel isHandled
      refine .inr ⟨?_, .inr (Option.some.inj taken).symm⟩
      unfold executesMacro
      split
      · rename_i steps isMacro
        rw [isHandled] at isMacro
        exact absurd (Except.ok.inj isMacro) (notMacro steps)
      · rfl
  · cases taken

theorem State.Sound.step (sound : state.Sound)
    (taken : Queues.step state label = some next) : next.Sound := by
  cases label with
  | receive isString data => exact sound.receive taken
  | handle queue =>
      obtain ⟨message, rest, idle, waiting, ⟨steps, executes, rfl⟩ |
        ⟨other, rfl | rfl⟩⟩ := handle_cases taken
      · exact sound.begin waiting idle executes steps
      · exact (sound.take waiting other).cancel message.macrosBefore
      · exact sound.take waiting other
  | uninstall id =>
      simp only [Queues.step] at taken
      split at taken
      · cases taken
      · rename_i between proceeds
        obtain ⟨macros, stepped, rfl⟩ := proceed_eq_some proceeds
        obtain rfl := Option.some.inj taken
        have after := sound.proceed stepped nofun
          (sound.undisturbed_uninstall stepped)
        refine ⟨after.macros, ?_, after.queued, after.caught, after.numbered⟩
        intro other unreturned
        have executing : state.executing keyboardQueueIndex = some other :=
          after.sequential unreturned
        have different : other ≠ id := by
          rintro rfl
          obtain ⟨cancelled, found, rfl⟩ := uninstall_step stepped
          have has := (Macros.has_setPhase_iff found).mp unreturned
          rw [if_pos rfl] at has
          exact has rfl
        simp [executing, different]
  | install _ | report _ _ | sleepCompleted _ | sleepCancelled _ _
  | stepsDone _ =>
      obtain ⟨macros, stepped, rfl⟩ := proceed_eq_some taken
      exact sound.proceed stepped nofun trivial

/-- A macro comes to its end in no other step than the two of
`typed_of_step`. -/
theorem typed_of_queueStep {id : Nat} (taken : step state label = some next)
    (typed : next.Typed id) :
    state.Typed id ∨
    (label = .install id ∧
      state.macros.Has (fun execution => execution.phase = .starting []) id) ∨
    (label = .sleepCompleted id ∧
      ∃ cancelled, state.macros.executions[id]? =
        some ⟨.sleeping [], cancelled⟩) := by
  have ofStep : ∀ {macroLabel macros},
      state.macros.step macroLabel = some macros →
        (∀ other, macroLabel ≠ .install other) →
          (∀ other, macroLabel ≠ .sleepCompleted other) →
            macros.Has (·.phase = .typing []) id → state.Typed id := by
    intro macroLabel macros stepped notInstall notSleep has
    rcases typed_of_step stepped has with old | ⟨same, -⟩ | ⟨same, -⟩
    · exact old
    · exact absurd same (notInstall id)
    · exact absurd same (notSleep id)
  cases label with
  | receive isString data =>
      left
      simp only [step] at taken
      (repeat' split at taken) <;> cases taken <;> exact typed
  | handle queue =>
      left
      obtain ⟨message, rest, -, -, ⟨steps, -, rfl⟩ | ⟨-, rfl | rfl⟩⟩ :=
        handle_cases taken
      · have begun : state.macros.step (.execute steps) =
            some (state.macros.cancelKeyboardMacro.begin steps) := rfl
        exact ofStep begun nofun nofun typed
      · have cancels : state.macros.step .cancelKeyboardMacro =
            some state.macros.cancelKeyboardMacro := rfl
        exact ofStep cancels nofun nofun typed
      · exact typed
  | install other =>
      obtain ⟨macros, stepped, rfl⟩ := proceed_eq_some taken
      rcases typed_of_step stepped typed with old | ⟨same, has⟩ | ⟨same, -⟩
      · exact .inl old
      · cases same
        exact .inr (.inl ⟨rfl, has⟩)
      · cases same
  | sleepCompleted other =>
      obtain ⟨macros, stepped, rfl⟩ := proceed_eq_some taken
      rcases typed_of_step stepped typed with old | ⟨same, -⟩ | ⟨same, has⟩
      · exact .inl old
      · cases same
      · cases same
        exact .inr (.inr ⟨rfl, has⟩)
  | report _ _ | sleepCancelled _ _ | stepsDone _ =>
      obtain ⟨macros, stepped, rfl⟩ := proceed_eq_some taken
      exact .inl (ofStep stepped nofun nofun typed)
  | uninstall other =>
      simp only [step] at taken
      split at taken
      · cases taken
      · rename_i between proceeds
        obtain ⟨macros, stepped, rfl⟩ := proceed_eq_some proceeds
        obtain rfl := Option.some.inj taken
        exact .inl (ofStep stepped nofun nofun typed)

/-- A step keeps the cancels exactly when the last macro, if it comes to its end
in it, was cancelled in time or not at all. -/
theorem cancelKept_iff (sound : state.Sound)
    (enabled : step state label = some next) :
    CancelKept state label ↔ CancelledInTime state label := by
  constructor
  · intro kept
    unfold CancelledInTime
    split
    · rename_i id
      rintro ⟨⟨phase, cancelled⟩, found, rfl⟩ last missed
      obtain ⟨macros, stepped, rfl⟩ := proceed_eq_some enabled
      have ends : State.Typed { state with macros := macros } id := by
        simp only [Macros.step, found, Option.some.injEq] at stepped
        subst stepped
        exact (Macros.has_setPhase_iff found).mpr (by simp)
      obtain ⟨execution, found', typed⟩ :=
        kept _ id enabled (.inl missed) last ends
      rw [found] at found'
      obtain rfl := Option.some.inj found'
      cases typed
    · rename_i id
      intro cancelled found last
      obtain ⟨macros, stepped, rfl⟩ := proceed_eq_some enabled
      have ends : State.Typed { state with macros := macros } id := by
        simp only [Macros.step, found, Option.some.injEq] at stepped
        subst stepped
        exact (Macros.has_setPhase_iff found).mpr (by simp)
      have unanswered : ¬ (id ∈ state.missed ∨ id ∈ state.caught) := by
        intro answered
        obtain ⟨execution, found', typed⟩ :=
          kept _ id enabled answered last ends
        rw [found] at found'
        obtain rfl := Option.some.inj found'
        cases typed
      rw [not_or] at unanswered
      exact ⟨unanswered.1, fun caught => absurd caught unanswered.2⟩
    · trivial
  · intro inTime after id taken answered last typed
    rcases typed_of_queueStep taken typed with
      old | ⟨rfl, has⟩ | ⟨rfl, cancelled, found⟩
    · exact old
    · rcases answered with missed | caught
      · exact absurd missed (inTime has last)
      · -- a starting execution has not been cancelled
        have starting : state.macros.Has (·.phase.IsStarting) id := by
          obtain ⟨⟨phase, cancelled⟩, found, rfl⟩ := has
          exact ⟨_, found, trivial⟩
        obtain ⟨⟨_, found', uncancelled, -⟩, -⟩ := sound.macros.starting starting
        obtain ⟨_, found'', isCancelled⟩ := sound.caught id caught
        rw [found'] at found''
        obtain rfl := Option.some.inj found''
        rw [isCancelled] at uncancelled
        cases uncancelled
    · obtain ⟨notMissed, uncancelled⟩ := inTime cancelled found last
      rcases answered with missed | caught
      · exact absurd missed notMissed
      · obtain ⟨execution, found', isCancelled⟩ := sound.caught id caught
        rw [found] at found'
        obtain rfl := Option.some.inj found'
        rw [uncancelled caught] at isCancelled
        cases isCancelled

/-- In every interleaving of the workers no macro runs to its end once a cancel
sent after it has been processed, exactly when every last macro that comes to
its end was installed before that cancel was processed and its last sleep did
not outrun its cancelled context. -/
theorem cancelKept_iff_cancelledInTime (labels : List Label) :
    AllSteps step CancelKept {} labels ↔
      AllSteps step CancelledInTime {} labels :=
  allSteps_congr (fun sound _ taken => State.Sound.step sound taken)
    cancelKept_iff State.Sound.initial labels

/-- The numbers of the queued macros continue those of the executed ones, after
any run. -/
theorem numbered_of_run {labels : List Label} {last : State}
    (reaches : exec step {} labels = some last) : last.Numbered :=
  ((allStates_of_invariant (fun sound taken => State.Sound.step sound taken)
    State.Sound.initial labels).last reaches).numbered

/-- A macro of one step and a cancel are sent; the worker of the cancel is the
faster one. -/
def cancelOvertakesMacro : List Label :=
  [.receive false ⟨[0x07, 0, 0, 0, 0, 1, 0, 4, 0, 0, 0, 0, 0, 3, 232], []⟩,
    .receive false ⟨[0x08], []⟩, .handle 3, .handle 1, .install 0,
    .report 0 {}, .sleepCompleted 0]

/-- The overtaking cancel is lost: the macro is typed to its end. -/
theorem overtaking_cancel_is_lost :
    ¬ ∀ labels, AllSteps step CancelKept {} labels := by
  intro kept
  have run := kept cancelOvertakesMacro
  have handled := (((run _ rfl).2 _ rfl).2 _ rfl).2
  have ends := ((((handled _ rfl).2 _ rfl).2 _ rfl).2 _ rfl).1
  obtain ⟨execution, found, typed⟩ := ends _ 0 rfl (.inl (by decide)) rfl
    ⟨_, rfl, rfl⟩
  cases found
  cases typed

end Queues

end KeyboardMacro

end JetKvm
