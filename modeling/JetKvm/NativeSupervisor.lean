import JetKvm.LabelledRuns
import JetKvm.PendingStages
import Mathlib.Tactic.SplitIfs

/-!
# The supervisor of the native process

Translation of `setUpGRPCClient`, `doStart`, `Start`, `monitorProcess`,
`restartProcess` and `Stop` of `internal/native/proxy.go`.  `Start` and `Stop`
are called any number of times; a test of `p.stopped`, the taking of a lock and
each step that creates, starts, kills or waits for a process are stages of the
goroutine that takes them.  The context of `Start` is never cancelled.
-/

namespace JetKvm

namespace NativeSupervisor

open LabelledRuns PendingStages

/-- `doStart` is called by `Start` and by `restartProcess`. -/
inductive Caller where
  | start
  | restart
  deriving DecidableEq, Repr

/-- What a goroutine does next -/
inductive Stage where
  | startLock
  | startTest
  | startListen
  | doStart (caller : Caller)
  | create (caller : Caller)
  | spawn (caller : Caller)
  | handshake (caller : Caller)
  | connect (caller : Caller)
  | waitReady (caller : Caller)
  | kill (caller : Caller)
  | reap (caller : Caller)
  | loop
  | lockWait
  | wait
  | recheck
  | restart
  | testRestart
  | closeClient
  | stopLock
  | stopKill
  | stopWait
  deriving DecidableEq, Repr

/-- `p.cmd`: nil, a command that was not started, or that of a child -/
inductive Command where
  | nil
  | created
  | process (id : Nat)
  deriving DecidableEq, Repr

/-- Children are numbered.  `unread` are those whose handshake nobody has
received, which blocks the copying of their output, and `reaped` those that were
waited for.  `failed` are the children of calls of `doStart` that returned an
error, `stopKilled` tells that `Stop` got past its kill, and `exited` that the
supervisor itself is gone. -/
structure Shared where
  startMu : Bool := false
  cmdMu : Bool := false
  stopped : Bool := false
  restarts : Nat := 0
  cmd : Command := .nil
  children : Nat := 0
  alive : List Nat := []
  greeted : List Nat := []
  unread : List Nat := []
  reaped : List Nat := []
  failed : List Nat := []
  stopKilled : Bool := false
  stopReturned : Bool := false
  exited : Bool := false
  deriving DecidableEq, Repr

namespace Shared

/-- `p.cmd.Wait`, which returns at once when it was called before -/
def wait (shared : Shared) : Option Shared :=
  match shared.cmd with
  | .process id =>
      if id ∈ shared.reaped then some shared
      else if id ∈ shared.alive ∨ id ∈ shared.unread then none
      else some { shared with reaped := id :: shared.reaped }
  | _ => some shared

/-- `doStart` returns to its caller.  `Start` then returns, with a goroutine
that monitors the child if there was no error. -/
def returned (shared : Shared) (caller : Caller) (ok : Bool) :
    Shared × List Stage :=
  match caller with
  | .start =>
      ({ shared with cmdMu := false, startMu := false },
        if ok then [.loop] else [])
  | .restart => ({ shared with cmdMu := false }, [.loop])

/-- An error is returned after the child was started. -/
def giveUp (shared : Shared) : Shared :=
  match shared.cmd with
  | .process id => { shared with failed := id :: shared.failed }
  | _ => shared

/-- `Stop` returns. -/
def stop (shared : Shared) : Shared :=
  { shared with startMu := false, stopReturned := true }

/-- `ok` is how the operation of the stage ends, where that is not decided by
what is shared. -/
def run (maxRestartAttempts : Nat) (ok : Bool) (shared : Shared) :
    Stage → Option (Shared × List Stage)
  | .startLock =>
      if shared.startMu then none
      else some ({ shared with startMu := true }, [.startTest])
  | .startTest =>
      some (if shared.stopped then ({ shared with startMu := false }, [])
        else (shared, [.startListen]))
  | .startListen =>
      some (if ok then (shared, [.doStart .start])
        else ({ shared with startMu := false }, []))
  | .doStart caller =>
      if shared.cmdMu then none
      else some ({ shared with cmdMu := true }, [.create caller])
  | .create caller =>
      some (if ok then ({ shared with cmd := .created }, [.spawn caller])
        else shared.returned caller false)
  | .spawn caller =>
      some (if ok then
          ({ shared with
            cmd := .process shared.children
            children := shared.children + 1
            alive := shared.children :: shared.alive }, [.handshake caller])
        else shared.returned caller false)
  | .handshake caller =>
      if ok then
        match shared.cmd with
        | .process id =>
            if id ∈ shared.unread then
              some ({ shared with unread := shared.unread.erase id },
                [.connect caller])
            else none
        | _ => none
      else some (shared.giveUp.returned caller false)
  | .connect caller =>
      some (if ok then (shared, [.waitReady caller])
        else shared.giveUp.returned caller false)
  | .waitReady caller =>
      some (if ok then shared.returned caller true
        else (shared, [.kill caller]))
  | .kill caller => some (shared, [.reap caller])
  | .reap caller =>
      shared.wait.map fun shared => shared.giveUp.returned caller false
  | .loop => some (shared, if shared.stopped then [] else [.lockWait])
  | .lockWait =>
      if shared.cmdMu then none
      else some ({ shared with cmdMu := true }, [.wait])
  | .wait =>
      shared.wait.map fun shared => ({ shared with cmdMu := false }, [.recheck])
  | .recheck => some (shared, if shared.stopped then [] else [.restart])
  | .restart =>
      let restarts := shared.restarts + 1
      some (if maxRestartAttempts ≤ restarts then
          ({ shared with restarts := restarts, exited := true }, [])
        else ({ shared with restarts := restarts }, [.testRestart]))
  | .testRestart =>
      some (shared, if shared.stopped then [.loop] else [.closeClient])
  | .closeClient => some (shared, [.doStart .restart])
  | .stopLock =>
      if shared.startMu then none
      else some ({ shared with startMu := true, stopped := true }, [.stopKill])
  | .stopKill =>
      -- the process of a nil command is asked for
      match shared.cmd with
      | .nil => some ({ shared with startMu := false, exited := true }, [])
      | .created => some ({ shared with stopKilled := true }.stop, [])
      | .process id =>
          some (if id ∈ shared.reaped then
              ({ shared with stopKilled := true }.stop, [])
            else ({ shared with stopKilled := true }, [.stopWait]))
  | .stopWait => shared.wait.map fun shared => (shared.stop, [])

end Shared

abbrev State := Pool Shared Stage

/-- Calls of `Start` and `Stop`, the stages of the goroutines, and what a child
does: print its handshake, or exit -/
inductive Label where
  | start
  | stop
  | stage (stage : Stage) (ok : Bool)
  | greet (id : Nat)
  | exit (id : Nat)
  deriving DecidableEq, Repr

def step (maxRestartAttempts : Nat) (state : State) : Label → Option State
  | .start =>
      if state.shared.exited then none else some (state.start [.startLock])
  | .stop =>
      if state.shared.exited then none else some (state.start [.stopLock])
  | .stage stage ok =>
      if state.shared.exited then none
      else state.proceed (Shared.run maxRestartAttempts ok) stage
  | .greet id =>
      if id < state.shared.children ∧ id ∉ state.shared.greeted ∧
          id ∉ state.shared.reaped then
        some { state with shared :=
          { state.shared with
            greeted := id :: state.shared.greeted
            unread := id :: state.shared.unread } }
      else none
  | .exit id =>
      if id ∈ state.shared.alive then
        some { state with shared :=
          { state.shared with alive := state.shared.alive.erase id } }
      else none

def initial : State := ⟨{}, []⟩

/-- One child lives at most, none of a start that failed, and none once `Stop`
has returned. -/
structure Supervises (state : State) : Prop where
  oneChild : state.shared.alive.length ≤ 1
  failedDead : ∀ id ∈ state.shared.failed, id ∉ state.shared.alive
  stoppedDead : state.shared.stopReturned = true → state.shared.alive = []

instance (state : State) : Decidable (Supervises state) :=
  decidable_of_iff
    (state.shared.alive.length ≤ 1 ∧
      (∀ id ∈ state.shared.failed, id ∉ state.shared.alive) ∧
      (state.shared.stopReturned = true → state.shared.alive = []))
    ⟨fun ⟨one, failed, stopped⟩ => ⟨one, failed, stopped⟩,
      fun ⟨one, failed, stopped⟩ => ⟨one, failed, stopped⟩⟩

namespace Stage

/-- The stages of `monitorProcess`, with those of its calls of `doStart` -/
def monitors : Stage → Bool
  | .doStart caller => caller = .restart
  | .create caller => caller = .restart
  | .spawn caller => caller = .restart
  | .handshake caller => caller = .restart
  | .connect caller => caller = .restart
  | .waitReady caller => caller = .restart
  | .kill caller => caller = .restart
  | .reap caller => caller = .restart
  | .loop => true
  | .lockWait => true
  | .wait => true
  | .recheck => true
  | .restart => true
  | .testRestart => true
  | .closeClient => true
  | _ => false

/-- The stages between a test of `p.stopped` and the start of a child -/
def goesOnToSpawn : Stage → Bool
  | .startListen => true
  | .closeClient => true
  | .doStart _ => true
  | .create _ => true
  | .spawn _ => true
  | _ => false

end Stage

/-- The child of `p.cmd` has exited. -/
def ChildDead (shared : Shared) : Prop :=
  ∀ id, shared.cmd = .process id → id ∉ shared.alive

/-- `Start` goes on only while nothing is monitored; a child that is given up
without being killed is dead; and `Stop` kills while nobody is between a test of
`p.stopped` and the start of a child. -/
def InTurn (state : State) : Label → Prop
  | .stage .startTest _ =>
      state.shared.stopped = true ∨ state.count Stage.monitors = 0
  | .stage (.handshake _) ok => ok = false → ChildDead state.shared
  | .stage (.connect _) ok => ok = false → ChildDead state.shared
  | .stage .stopKill _ => state.count Stage.goesOnToSpawn = 0
  | _ => True

/-! ### What each stage may rely on -/

namespace Stage

/-- The stages of `Start` once it has found the supervisor not stopped -/
def startsUp : Stage → Bool
  | .startListen => true
  | .doStart caller => caller = .start
  | .create caller => caller = .start
  | .spawn caller => caller = .start
  | .handshake caller => caller = .start
  | .connect caller => caller = .start
  | .waitReady caller => caller = .start
  | .kill caller => caller = .start
  | .reap caller => caller = .start
  | _ => false

/-- The stages between the locking of `startMu` and its release -/
def holdsStartMu (stage : Stage) : Bool :=
  stage.startsUp || stage = .startTest || stage = .stopKill || stage = .stopWait

/-- The stages that start, await or replace a child -/
def supervises (stage : Stage) : Bool :=
  stage.startsUp || stage.monitors

end Stage

namespace Shared

/-- `Start` goes on as long as nobody stops it; a restart may be overtaken. -/
def NotStopped (shared : Shared) : Caller → Prop
  | .start => shared.stopped = false
  | .restart => True

/-- No child lives, and `Stop` has not killed yet. -/
def Ready (shared : Shared) (caller : Caller) : Prop :=
  shared.alive = [] ∧ shared.NotStopped caller ∧ shared.stopKilled = false

/-- The command is that of a child. -/
def Started (shared : Shared) (caller : Caller) : Prop :=
  shared.NotStopped caller ∧ ∃ id, shared.cmd = .process id

end Shared

/-- What holds while the stage is in progress -/
def Stage.Allows (shared : Shared) : Stage → Prop
  | .startListen => shared.Ready .start
  | .doStart caller => shared.Ready caller
  | .create caller => shared.Ready caller
  | .spawn caller => shared.Ready caller
  | .handshake caller => shared.Started caller
  | .connect caller => shared.Started caller
  | .waitReady caller => shared.Started caller
  | .kill caller => shared.Started caller
  | .reap caller => shared.Started caller
  | .recheck => shared.alive = []
  | .restart => shared.alive = []
  | .testRestart => shared.alive = []
  | .closeClient => shared.Ready .restart
  | .stopKill => shared.stopped = true
  | .stopWait => shared.stopKilled = true
  | _ => True

namespace Shared

/-- Only the child of `p.cmd` may live, and what was recorded of children that
have died stays true. -/
structure Consistent (shared : Shared) : Prop where
  child : shared.alive = [] ∨
    ∃ id, shared.cmd = .process id ∧ shared.alive = [id]
  known : ∀ id, shared.cmd = .process id → id < shared.children
  failed : ∀ id ∈ shared.failed, id < shared.children ∧ id ∉ shared.alive
  reaped : ∀ id ∈ shared.reaped, id < shared.children ∧ id ∉ shared.alive
  killed : shared.stopKilled = true → shared.stopped = true
  returned : shared.stopReturned = true →
    shared.stopKilled = true ∧ shared.alive = []

end Shared

/-- What holds in every state of a run whose steps are in turn -/
structure Invariant (state : State) : Prop where
  consistent : state.shared.Consistent
  allows : ∀ stage ∈ state.running, stage.Allows state.shared
  startMu : state.count Stage.holdsStartMu =
    if state.shared.startMu then 1 else 0
  one : state.count Stage.supervises ≤ 1
  resting : state.count Stage.supervises = 0 → state.shared.stopped = false →
    state.shared.alive = []

theorem Invariant.initial : Invariant initial where
  consistent := ⟨.inl rfl, nofun, nofun, nofun, nofun, nofun⟩
  allows := nofun
  startMu := rfl
  one := Nat.zero_le 1
  resting _ _ := rfl

theorem Invariant.supervised {state : State} (invariant : Invariant state) :
    Supervises state where
  oneChild := by
    rcases invariant.consistent.child with none | ⟨id, -, one⟩
    · rw [none]
      exact Nat.zero_le 1
    · rw [one]
      exact Nat.le_refl 1
  failedDead id member := (invariant.consistent.failed id member).2
  stoppedDead stopped := (invariant.consistent.returned stopped).2

section Steps

variable {shared after : Shared} {caller : Caller} {stage : Stage}

/-- The stages of the calls that wait or stop rely only on what stays. -/
theorem Stage.Allows.of_not_supervises (allows : stage.Allows shared)
    (apart : stage.supervises = false)
    (stopped : shared.stopped = true → after.stopped = true)
    (killed : shared.stopKilled = true → after.stopKilled = true) :
    stage.Allows after := by
  cases stage with
  | startLock => trivial
  | startTest => trivial
  | stopLock => trivial
  | stopKill => exact stopped allows
  | stopWait => exact killed allows
  | startListen => cases apart
  | doStart caller | create caller | spawn caller | handshake caller
  | connect caller | waitReady caller | kill caller | reap caller =>
      cases caller <;> cases apart
  | _ => cases apart

namespace Shared

variable {more : List Stage}

theorem Consistent.alive_eq_nil (consistent : shared.Consistent)
    (dead : ChildDead shared) : shared.alive = [] := by
  rcases consistent.child with none | ⟨id, command, one⟩
  · exact none
  · have gone := dead id command
    rw [one] at gone
    exact absurd (List.mem_singleton_self id) gone

theorem childDead_of_not_mem {id : Nat} (command : shared.cmd = .process id)
    (gone : id ∉ shared.alive) : ChildDead shared := by
  intro other same
  cases command.symm.trans same
  exact gone

theorem childDead_of_no_process
    (command : ∀ id, shared.cmd = .process id → False) : ChildDead shared :=
  fun id same => (command id same).elim

theorem Consistent.reap (consistent : shared.Consistent) {id : Nat}
    (command : shared.cmd = .process id) (gone : id ∉ shared.alive) :
    { shared with reaped := id :: shared.reaped }.Consistent := by
  obtain ⟨child, known, failed, reaped, killed, returned⟩ := consistent
  refine ⟨child, known, failed, ?_, killed, returned⟩
  exact List.forall_mem_cons.mpr ⟨⟨known id command, gone⟩, reaped⟩

/-- Waiting returns once no child lives, and records that at most. -/
theorem Consistent.wait (consistent : shared.Consistent)
    (waited : shared.wait = some after) :
    shared.alive = [] ∧ after.Consistent ∧
      ∃ reaped, after = { shared with reaped := reaped } := by
  unfold Shared.wait at waited
  split at waited
  · rename_i id command
    split_ifs at waited with reaped blocked
    · cases waited
      have gone := childDead_of_not_mem command
        (consistent.reaped id reaped).2
      exact ⟨consistent.alive_eq_nil gone, consistent, _, rfl⟩
    · cases waited
      have gone := (not_or.mp blocked).1
      exact ⟨consistent.alive_eq_nil (childDead_of_not_mem command gone),
        consistent.reap command gone, _, rfl⟩
  · rename_i command
    cases waited
    have gone := childDead_of_no_process command
    exact ⟨consistent.alive_eq_nil gone, consistent, _, rfl⟩

theorem giveUp_eq (shared : Shared) :
    ∃ failed, shared.giveUp = { shared with failed := failed } := by
  unfold giveUp
  split
  · exact ⟨_, rfl⟩
  · exact ⟨shared.failed, rfl⟩

theorem Consistent.giveUp (consistent : shared.Consistent)
    (none : shared.alive = []) : shared.giveUp.Consistent := by
  unfold Shared.giveUp
  split
  · rename_i id command
    obtain ⟨child, known, failed, reaped, killed, returned⟩ := consistent
    have dead : id ∉ shared.alive := by
      rw [none]
      exact List.not_mem_nil
    refine ⟨child, known, ?_, reaped, killed, returned⟩
    exact List.forall_mem_cons.mpr ⟨⟨known id command, dead⟩, failed⟩
  · exact consistent

/-- What a stage that supervises leads to: it leaves `Stop` alone, and either
one stage goes on, or none and no child is left to it. -/
structure Led (shared : Shared) (stage : Stage) (after : Shared)
    (more : List Stage) : Prop where
  consistent : after.Consistent
  stopped : after.stopped = shared.stopped
  killed : after.stopKilled = shared.stopKilled
  allows : ∀ other ∈ more, other.Allows after
  startMu : (if after.startMu then 1 else 0) +
      (if stage.holdsStartMu then 1 else 0) =
    (if shared.startMu then 1 else 0) + more.countP Stage.holdsStartMu
  goesOn : more.countP Stage.supervises = 1 ∨
    more = [] ∧ (after.stopped = false → after.alive = [])

/-- One stage leads to another under the same lock. -/
theorem Led.next {other : Stage} (consistent : after.Consistent)
    (stopped : after.stopped = shared.stopped)
    (killed : after.stopKilled = shared.stopKilled)
    (startMu : after.startMu = shared.startMu) (allows : other.Allows after)
    (holds : other.holdsStartMu = stage.holdsStartMu)
    (supervises : other.supervises = true) : Led shared stage after [other] where
  consistent := consistent
  stopped := stopped
  killed := killed
  allows := List.forall_mem_singleton.mpr allows
  startMu := by rw [List.countP_singleton, startMu, holds]
  goesOn := .inl (by rw [List.countP_singleton, supervises]; rfl)

theorem Led.returned {ok : Bool} (consistent : shared.Consistent)
    (locked : caller = .start → shared.startMu = true)
    (holds : stage.holdsStartMu = decide (caller = .start))
    (dead : ok = false → shared.alive = [])
    (returns : shared.returned caller ok = (after, more)) :
    Led shared stage after more := by
  obtain rfl : (shared.returned caller ok).1 = after :=
    congrArg Prod.fst returns
  obtain rfl : (shared.returned caller ok).2 = more :=
    congrArg Prod.snd returns
  obtain ⟨child, known, failed, reaped, killed, returned⟩ := consistent
  cases caller with
  | start =>
      refine ⟨⟨child, known, failed, reaped, killed, returned⟩, rfl, rfl, ?_, ?_,
        ?_⟩
      · cases ok <;> simp [Shared.returned, Stage.Allows]
      · rw [holds, locked rfl]
        cases ok <;> rfl
      · cases ok with
        | true => exact .inl rfl
        | false => exact .inr ⟨rfl, fun _ => dead rfl⟩
  | restart =>
      refine ⟨⟨child, known, failed, reaped, killed, returned⟩, rfl, rfl, ?_, ?_,
        .inl rfl⟩
      · simp [Shared.returned, Stage.Allows]
      · rw [holds]
        rfl

/-- The same after an error that left no child. -/
theorem Led.gaveUp (consistent : shared.Consistent)
    (locked : caller = .start → shared.startMu = true)
    (holds : stage.holdsStartMu = decide (caller = .start))
    (none : shared.alive = [])
    (returns : shared.giveUp.returned caller false = (after, more)) :
    Led shared stage after more := by
  have kept := consistent.giveUp none
  obtain ⟨failed, same⟩ := giveUp_eq shared
  rw [same] at kept returns
  obtain ⟨consistent, stopped, killed, allows, startMu, goesOn⟩ :=
    Led.returned kept locked holds (fun _ => none) returns
  exact ⟨consistent, stopped, killed, allows, startMu, goesOn⟩

theorem Consistent.apart (consistent : shared.Consistent)
    (startMu cmdMu exited : Bool) (restarts : Nat) (unread : List Nat) :
    { shared with
      startMu := startMu
      cmdMu := cmdMu
      exited := exited
      restarts := restarts
      unread := unread }.Consistent := by
  obtain ⟨child, known, failed, reaped, killed, returned⟩ := consistent
  exact ⟨child, known, failed, reaped, killed, returned⟩

/-- No child lives when a command is created or given up. -/
theorem Consistent.create (consistent : shared.Consistent)
    (none : shared.alive = []) :
    { shared with cmd := .created }.Consistent := by
  obtain ⟨-, -, failed, reaped, killed, returned⟩ := consistent
  exact ⟨.inl none, nofun, failed, reaped, killed, returned⟩

theorem Consistent.spawn (consistent : shared.Consistent)
    (ready : shared.Ready caller) :
    { shared with
      cmd := .process shared.children
      children := shared.children + 1
      alive := shared.children :: shared.alive }.Consistent := by
  obtain ⟨-, -, failed, reaped, killed, returned⟩ := consistent
  obtain ⟨none, -, notKilled⟩ := ready
  have older : ∀ id, id < shared.children →
      id < shared.children + 1 ∧ id ∉ shared.children :: shared.alive := by
    intro id before
    rw [none, List.mem_singleton]
    omega
  constructor
  · exact .inr ⟨shared.children, rfl, by rw [none]⟩
  · intro id same
    cases same
    exact Nat.lt_succ_self _
  · intro id member
    exact older id (failed id member).1
  · intro id member
    exact older id (reaped id member).1
  · exact killed
  · intro stopped
    exact absurd (returned stopped).1 (by rw [notKilled]; decide)

/-- A step of a goroutine that supervises -/
theorem Consistent.led {maxRestartAttempts : Nat} {ok : Bool}
    (consistent : shared.Consistent) (supervises : stage.supervises = true)
    (allows : stage.Allows shared)
    (locked : stage.holdsStartMu = true → shared.startMu = true)
    (dead : (∃ caller, stage = .handshake caller ∨ stage = .connect caller) →
      ok = false → ChildDead shared)
    (ran : shared.run maxRestartAttempts ok stage = some (after, more)) :
    Led shared stage after more := by
  cases stage with
  | startLock | startTest | stopLock | stopKill | stopWait => cases supervises
  | startListen =>
      cases ok with
      | true =>
          cases ran
          exact .next consistent rfl rfl rfl allows rfl rfl
      | false =>
          cases ran
          refine ⟨consistent.apart false _ _ _ _, rfl, rfl, nofun, ?_,
            .inr ⟨rfl, fun _ => allows.1⟩⟩
          rw [locked rfl]
          rfl
  | doStart caller =>
      simp only [Shared.run] at ran
      split_ifs at ran
      cases ran
      exact .next (consistent.apart _ true _ _ _) rfl rfl rfl allows
        (by cases caller <;> rfl) (by cases caller <;> rfl)
  | create caller =>
      cases ok with
      | true =>
          cases ran
          exact .next (consistent.create allows.1) rfl rfl rfl allows
            (by cases caller <;> rfl) (by cases caller <;> rfl)
      | false =>
          exact .returned consistent (fun same => locked (by rw [same]; rfl))
            (by cases caller <;> rfl) (fun _ => allows.1) (Option.some.inj ran)
  | spawn caller =>
      cases ok with
      | true =>
          cases ran
          exact .next (consistent.spawn allows) rfl rfl rfl
            ⟨allows.2.1, _, rfl⟩
            (by cases caller <;> rfl) (by cases caller <;> rfl)
      | false =>
          exact .returned consistent (fun same => locked (by rw [same]; rfl))
            (by cases caller <;> rfl) (fun _ => allows.1) (Option.some.inj ran)
  | handshake caller =>
      cases ok with
      | true =>
          simp only [Shared.run, if_true] at ran
          split at ran
          · split_ifs at ran
            cases ran
            exact .next (consistent.apart _ _ _ _ _) rfl rfl rfl allows
              (by cases caller <;> rfl) (by cases caller <;> rfl)
          · cases ran
      | false =>
          exact .gaveUp consistent (fun same => locked (by rw [same]; rfl))
            (by cases caller <;> rfl)
            (consistent.alive_eq_nil (dead ⟨caller, .inl rfl⟩ rfl))
            (Option.some.inj ran)
  | connect caller =>
      cases ok with
      | true =>
          cases ran
          exact .next consistent rfl rfl rfl allows
            (by cases caller <;> rfl) (by cases caller <;> rfl)
      | false =>
          exact .gaveUp consistent (fun same => locked (by rw [same]; rfl))
            (by cases caller <;> rfl)
            (consistent.alive_eq_nil (dead ⟨caller, .inr rfl⟩ rfl))
            (Option.some.inj ran)
  | waitReady caller =>
      cases ok with
      | true =>
          have returns : shared.returned caller true = (after, more) :=
            Option.some.inj ran
          exact .returned consistent (fun same => locked (by rw [same]; rfl))
            (by cases caller <;> rfl) (fun same => by cases same) returns
      | false =>
          cases ran
          exact .next consistent rfl rfl rfl allows
            (by cases caller <;> rfl) (by cases caller <;> rfl)
  | kill caller =>
      cases ran
      exact .next consistent rfl rfl rfl allows
        (by cases caller <;> rfl) (by cases caller <;> rfl)
  | reap caller =>
      obtain ⟨waited, waits, same⟩ := Option.map_eq_some_iff.mp ran
      obtain ⟨none, kept, reaped, rfl⟩ := consistent.wait waits
      have led : Led _ (.reap caller) after more :=
        .gaveUp kept (fun same => locked (by rw [same]; rfl))
          (by cases caller <;> rfl) none same
      obtain ⟨consistent, stopped, killed, allows, startMu, goesOn⟩ := led
      exact ⟨consistent, stopped, killed, allows, startMu, goesOn⟩
  | loop =>
      cases ran
      cases stopped : shared.stopped with
      | true =>
          refine ⟨consistent, rfl, rfl, nofun, rfl, .inr ⟨rfl, fun going => ?_⟩⟩
          cases stopped.symm.trans going
      | false => exact .next consistent rfl rfl rfl trivial rfl rfl
  | lockWait =>
      simp only [Shared.run] at ran
      split_ifs at ran
      cases ran
      exact .next (consistent.apart _ true _ _ _) rfl rfl rfl trivial rfl rfl
  | wait =>
      obtain ⟨waited, waits, same⟩ := Option.map_eq_some_iff.mp ran
      obtain ⟨none, kept, reaped, rfl⟩ := consistent.wait waits
      cases same
      exact .next (kept.apart _ false _ _ _) rfl rfl rfl none rfl rfl
  | recheck =>
      cases ran
      cases shared.stopped with
      | true =>
          exact ⟨consistent, rfl, rfl, nofun, rfl, .inr ⟨rfl, fun _ => allows⟩⟩
      | false => exact .next consistent rfl rfl rfl allows rfl rfl
  | restart =>
      simp only [Shared.run, Option.some.injEq] at ran
      split_ifs at ran
      · cases ran
        exact ⟨consistent.apart _ _ true _ _, rfl, rfl, nofun, rfl,
          .inr ⟨rfl, fun _ => allows⟩⟩
      · cases ran
        exact .next (consistent.apart _ _ _ _ _) rfl rfl rfl allows rfl rfl
  | testRestart =>
      cases ran
      cases stopped : shared.stopped with
      | true => exact .next consistent rfl rfl rfl trivial rfl rfl
      | false =>
          have ready : shared.Ready .restart := by
            refine ⟨allows, trivial, ?_⟩
            by_contra killed
            have := consistent.killed (by simpa using killed)
            cases stopped.symm.trans this
          exact .next consistent rfl rfl rfl ready rfl rfl
  | closeClient =>
      cases ran
      exact .next consistent rfl rfl rfl allows rfl rfl

end Shared

variable {state next : State} {more : List Stage} {maxRestartAttempts : Nat}
variable {ok : Bool}

theorem Invariant.locked (invariant : Invariant state)
    (held : 0 < state.count Stage.holdsStartMu) :
    state.shared.startMu = true := by
  have startMu := invariant.startMu
  split_ifs at startMu with isHeld
  · exact isHeld
  · omega

/-- A stage was run, and each stage may still rely on what it relied on. -/
theorem Invariant.of_proceeded (invariant : Invariant state)
    (proceeded : Pool.Proceeded (Shared.run maxRestartAttempts ok) state stage
      next more)
    (consistent : next.shared.Consistent)
    (others : ∀ other ∈ state.running.erase stage, other.Allows next.shared)
    (leads : ∀ other ∈ more, other.Allows next.shared)
    (startMu : (if next.shared.startMu then 1 else 0) +
        (if stage.holdsStartMu then 1 else 0) =
      (if state.shared.startMu then 1 else 0) +
        more.countP Stage.holdsStartMu)
    (one : next.count Stage.supervises ≤ 1)
    (resting : next.count Stage.supervises = 0 →
      next.shared.stopped = false → next.shared.alive = []) :
    Invariant next where
  consistent := consistent
  allows := by
    rw [proceeded.running]
    exact List.forall_mem_append.mpr ⟨others, leads⟩
  startMu := by
    have counts := proceeded.count Stage.holdsStartMu
    have before := invariant.startMu
    omega
  one := one
  resting := resting

theorem Invariant.proceed_supervises (invariant : Invariant state)
    (supervises : stage.supervises = true)
    (proceeded : Pool.Proceeded (Shared.run maxRestartAttempts ok) state stage
      next more)
    (inTurn : InTurn state (.stage stage ok)) : Invariant next := by
  have locked : stage.holdsStartMu = true → state.shared.startMu = true :=
    fun holds => invariant.locked (proceeded.counted holds)
  have dead : (∃ caller, stage = .handshake caller ∨ stage = .connect caller) →
      ok = false → ChildDead state.shared := by
    rintro ⟨caller, rfl | rfl⟩
    · exact inTurn
    · exact inTurn
  have allows := invariant.allows stage proceeded.member
  have led := invariant.consistent.led supervises allows locked dead
    proceeded.ran
  have counts := proceeded.count Stage.supervises
  have one := invariant.one
  rw [supervises, if_pos rfl] at counts
  refine invariant.of_proceeded proceeded led.consistent ?_ led.allows
    led.startMu ?_ ?_
  · intro other inside
    have apart := Pool.not_of_mem_erase invariant.one proceeded.member
      supervises inside
    have before := invariant.allows other (List.mem_of_mem_erase inside)
    refine before.of_not_supervises apart ?_ ?_
    · rw [led.stopped]
      exact id
    · rw [led.killed]
      exact id
  · rcases led.goesOn with goesOn | ⟨rfl, -⟩
    · omega
    · rw [List.countP_nil] at counts
      omega
  · intro none
    rcases led.goesOn with goesOn | ⟨-, rests⟩
    · have counted := proceeded.counted supervises
      omega
    · exact rests

/-- A stage may rely on the same, where only what is left alone changes. -/
theorem Stage.Allows.mono (allows : stage.Allows shared)
    (alive : shared.alive = [] → after.alive = [])
    (cmd : after.cmd = shared.cmd)
    (stopped : shared.stopped = true → after.stopped = true)
    (killed : shared.stopKilled = true → after.stopKilled = true)
    (going : stage.startsUp = true → after.stopped = shared.stopped)
    (spawning : stage.goesOnToSpawn = true →
      after.stopKilled = shared.stopKilled) : stage.Allows after := by
  have ready : ∀ {caller}, (caller = .start → stage.startsUp = true) →
      stage.goesOnToSpawn = true → shared.Ready caller → after.Ready caller := by
    rintro caller startsUp spawns ⟨none, notStopped, notKilled⟩
    refine ⟨alive none, ?_, (spawning spawns).trans notKilled⟩
    cases caller with
    | start => exact (going (startsUp rfl)).trans notStopped
    | restart => trivial
  have started : ∀ {caller}, (caller = .start → stage.startsUp = true) →
      shared.Started caller → after.Started caller := by
    rintro caller startsUp ⟨notStopped, id, command⟩
    refine ⟨?_, id, cmd.trans command⟩
    cases caller with
    | start => exact (going (startsUp rfl)).trans notStopped
    | restart => trivial
  cases stage with
  | startListen => exact ready (fun _ => rfl) rfl allows
  | doStart | create | spawn =>
      exact ready (fun same => by rw [same]; rfl) rfl allows
  | closeClient => exact ready nofun rfl allows
  | handshake | connect | waitReady | kill | reap =>
      exact started (fun same => by rw [same]; rfl) allows
  | recheck | restart | testRestart => exact alive allows
  | stopKill => exact stopped allows
  | stopWait => exact killed allows
  | _ => trivial

/-- A stage of a call before or after it supervises leaves their number. -/
theorem Invariant.of_call (invariant : Invariant state)
    (proceeded : Pool.Proceeded (Shared.run maxRestartAttempts ok) state stage
      next more) (apart : stage.supervises = false)
    (consistent : next.shared.Consistent)
    (alive : next.shared.alive = state.shared.alive)
    (cmd : next.shared.cmd = state.shared.cmd)
    (stopped : state.shared.stopped = true → next.shared.stopped = true)
    (killed : state.shared.stopKilled = true → next.shared.stopKilled = true)
    (going : ∀ other ∈ state.running.erase stage, other.startsUp = true →
      next.shared.stopped = state.shared.stopped)
    (spawning : ∀ other ∈ state.running.erase stage,
      other.goesOnToSpawn = true →
        next.shared.stopKilled = state.shared.stopKilled)
    (leads : ∀ other ∈ more, other.Allows next.shared)
    (startMu : (if next.shared.startMu then 1 else 0) +
        (if stage.holdsStartMu then 1 else 0) =
      (if state.shared.startMu then 1 else 0) +
        more.countP Stage.holdsStartMu)
    (none : more.countP Stage.supervises = 0) : Invariant next := by
  have counts := proceeded.count Stage.supervises
  rw [apart, none] at counts
  have same : next.count Stage.supervises = state.count Stage.supervises :=
    counts
  refine invariant.of_proceeded proceeded consistent ?_ leads startMu ?_ ?_
  · intro other inside
    have before := invariant.allows other (List.mem_of_mem_erase inside)
    exact before.mono (alive ▸ id) cmd stopped killed (going other inside)
      (spawning other inside)
  · rw [same]
    exact invariant.one
  · intro resting notStopped
    rw [alive]
    refine invariant.resting (same ▸ resting) ?_
    by_contra before
    have after := stopped (by simpa using before)
    cases notStopped.symm.trans after

theorem Invariant.proceed_startLock (invariant : Invariant state)
    (proceeded : Pool.Proceeded (Shared.run maxRestartAttempts ok) state
      .startLock next more) : Invariant next := by
  have ran := proceeded.ran
  obtain ⟨after, running⟩ := next
  simp only [Shared.run] at ran
  split_ifs at ran with held
  cases ran
  refine invariant.of_call proceeded rfl (invariant.consistent.apart true _ _ _ _)
    rfl rfl id id (fun _ _ _ => rfl) (fun _ _ _ => rfl) ?_ ?_ rfl
  · exact List.forall_mem_singleton.mpr trivial
  · rw [if_neg held]
    rfl

/-- Nothing is monitored, and `Start` is not called by another. -/
theorem Invariant.idle (invariant : Invariant state)
    (member : Stage.startTest ∈ state.running)
    (unmonitored : state.count Stage.monitors = 0) :
    state.count Stage.supervises = 0 := by
  have held : state.count Stage.holdsStartMu ≤ 1 := by
    rw [invariant.startMu]
    split_ifs <;> omega
  apply List.countP_eq_zero.mpr
  intro other inside
  have unwatched := Pool.not_of_count_eq_zero unmonitored inside
  have apart : other.startsUp = false := by
    by_cases same : other = .startTest
    · rw [same]
      rfl
    · have inside := (List.mem_erase_of_ne same).mpr inside
      have free := Pool.not_of_mem_erase held member rfl inside
      by_contra startsUp
      simp_all [Stage.holdsStartMu]
  rw [Stage.supervises, apart, unwatched]
  decide

theorem Invariant.proceed_startTest (invariant : Invariant state)
    (proceeded : Pool.Proceeded (Shared.run maxRestartAttempts ok) state
      .startTest next more)
    (inTurn : InTurn state (.stage .startTest ok)) : Invariant next := by
  have ran := proceeded.ran
  have locked : state.shared.startMu = true :=
    invariant.locked (proceeded.counted rfl)
  obtain ⟨after, running⟩ := next
  simp only [Shared.run, Option.some.injEq] at ran
  split_ifs at ran with stopped
  · cases ran
    refine invariant.of_call proceeded rfl
      (invariant.consistent.apart false _ _ _ _) rfl rfl id id
      (fun _ _ _ => rfl) (fun _ _ _ => rfl) nofun ?_ rfl
    rw [locked]
    rfl
  · cases ran
    have idle := invariant.idle proceeded.member (inTurn.resolve_left stopped)
    have notStopped : state.shared.stopped = false := by simpa using stopped
    have none := invariant.resting idle notStopped
    have notKilled : state.shared.stopKilled = false := by
      by_contra killed
      exact stopped (invariant.consistent.killed (by simpa using killed))
    have counts := proceeded.count Stage.supervises
    rw [idle] at counts
    have one : Pool.count ⟨state.shared, running⟩ Stage.supervises = 1 := counts
    refine invariant.of_proceeded proceeded invariant.consistent ?_ ?_ rfl
      (Nat.le_of_eq one) (fun resting => ?_)
    · intro other inside
      exact invariant.allows other (List.mem_of_mem_erase inside)
    · exact List.forall_mem_singleton.mpr ⟨none, notStopped, notKilled⟩
    · rw [one] at resting
      cases resting

theorem Invariant.proceed_stopLock (invariant : Invariant state)
    (proceeded : Pool.Proceeded (Shared.run maxRestartAttempts ok) state
      .stopLock next more) : Invariant next := by
  have ran := proceeded.ran
  obtain ⟨after, running⟩ := next
  simp only [Shared.run] at ran
  split_ifs at ran with held
  cases ran
  have free : state.count Stage.holdsStartMu = 0 := by
    rw [invariant.startMu, if_neg held]
  obtain ⟨child, known, failed, reaped, -, returned⟩ := invariant.consistent
  refine invariant.of_call proceeded rfl
    ⟨child, known, failed, reaped, fun _ => rfl, returned⟩ rfl rfl
    (fun _ => rfl) id ?_ (fun _ _ _ => rfl) ?_ ?_ rfl
  · intro other inside startsUp
    have apart := Pool.not_of_count_eq_zero free (List.mem_of_mem_erase inside)
    simp [Stage.holdsStartMu, startsUp] at apart
  · exact List.forall_mem_singleton.mpr rfl
  · rw [if_neg held]
    rfl

theorem Shared.Consistent.stop (consistent : shared.Consistent)
    (stopped : shared.stopped = true) (none : shared.alive = []) :
    { shared with stopKilled := true }.stop.Consistent := by
  obtain ⟨child, known, failed, reaped, -, -⟩ := consistent
  exact ⟨child, known, failed, reaped, fun _ => stopped,
    fun _ => ⟨rfl, none⟩⟩

theorem Invariant.proceed_stopKill (invariant : Invariant state)
    (proceeded : Pool.Proceeded (Shared.run maxRestartAttempts ok) state
      .stopKill next more)
    (inTurn : state.count Stage.goesOnToSpawn = 0) : Invariant next := by
  have ran := proceeded.ran
  have locked : state.shared.startMu = true :=
    invariant.locked (proceeded.counted rfl)
  have stopped : state.shared.stopped = true :=
    invariant.allows _ proceeded.member
  have spawning : ∀ (after : Shared),
      ∀ other ∈ state.running.erase .stopKill, other.goesOnToSpawn = true →
        after.stopKilled = state.shared.stopKilled := by
    intro after other inside spawns
    have apart := Pool.not_of_count_eq_zero inTurn (List.mem_of_mem_erase inside)
    cases spawns.symm.trans apart
  have consistent := invariant.consistent
  obtain ⟨after, running⟩ := next
  simp only [Shared.run] at ran
  split at ran
  · cases ran
    refine invariant.of_call proceeded rfl (consistent.apart false _ true _ _)
      rfl rfl id id (fun _ _ _ => rfl) (fun _ _ _ => rfl) nofun ?_ rfl
    rw [locked]
    rfl
  · rename_i created
    cases ran
    have none := consistent.alive_eq_nil
      (Shared.childDead_of_no_process fun id same => by
        cases created.symm.trans same)
    refine invariant.of_call proceeded rfl (consistent.stop stopped none)
      rfl rfl id (fun _ => rfl) (fun _ _ _ => rfl) (spawning _) nofun ?_ rfl
    rw [locked]
    rfl
  · rename_i id command
    simp only [Option.some.injEq] at ran
    split_ifs at ran with reaped
    · cases ran
      have none := consistent.alive_eq_nil
        (Shared.childDead_of_not_mem command (consistent.reaped id reaped).2)
      refine invariant.of_call proceeded rfl (consistent.stop stopped none)
        rfl rfl (fun kept => kept) (fun _ => rfl) (fun _ _ _ => rfl)
        (spawning _) nofun ?_ rfl
      rw [locked]
      rfl
    · cases ran
      obtain ⟨child, known, failed, reapedDead, -, returned⟩ := consistent
      refine invariant.of_call proceeded rfl
        ⟨child, known, failed, reapedDead, fun _ => stopped,
          fun ended => ⟨rfl, (returned ended).2⟩⟩ rfl rfl (fun kept => kept)
        (fun _ => rfl) (fun _ _ _ => rfl) (spawning _) ?_ rfl rfl
      exact List.forall_mem_singleton.mpr rfl

theorem Invariant.proceed_stopWait (invariant : Invariant state)
    (proceeded : Pool.Proceeded (Shared.run maxRestartAttempts ok) state
      .stopWait next more) : Invariant next := by
  have locked : state.shared.startMu = true :=
    invariant.locked (proceeded.counted rfl)
  have killed : state.shared.stopKilled = true :=
    invariant.allows _ proceeded.member
  obtain ⟨waited, waits, same⟩ := Option.map_eq_some_iff.mp proceeded.ran
  obtain ⟨none, ⟨child, known, failed, reapedDead, killedStopped, -⟩, reaped,
    rfl⟩ := invariant.consistent.wait waits
  obtain ⟨after, running⟩ := next
  cases same
  refine invariant.of_call proceeded rfl
    ⟨child, known, failed, reapedDead, killedStopped,
      fun _ => ⟨killed, none⟩⟩ rfl rfl id id (fun _ _ _ => rfl)
    (fun _ _ _ => rfl) nofun ?_ rfl
  rw [locked]
  rfl

theorem Invariant.proceed (invariant : Invariant state)
    (proceeded : Pool.Proceeded (Shared.run maxRestartAttempts ok) state stage
      next more)
    (inTurn : InTurn state (.stage stage ok)) : Invariant next := by
  cases supervises : stage.supervises with
  | true => exact invariant.proceed_supervises supervises proceeded inTurn
  | false =>
      cases stage with
      | startLock => exact invariant.proceed_startLock proceeded
      | startTest => exact invariant.proceed_startTest proceeded inTurn
      | stopLock => exact invariant.proceed_stopLock proceeded
      | stopKill => exact invariant.proceed_stopKill proceeded inTurn
      | stopWait => exact invariant.proceed_stopWait proceeded
      | startListen => cases supervises
      | doStart caller | create caller | spawn caller | handshake caller
      | connect caller | waitReady caller | kill caller | reap caller =>
          cases caller <;> cases supervises
      | _ => cases supervises

/-- A call begins outside of every lock. -/
theorem Invariant.start (invariant : Invariant state)
    (allows : stage.Allows state.shared) (unlocked : stage.holdsStartMu = false)
    (apart : stage.supervises = false) : Invariant (state.start [stage]) where
  consistent := invariant.consistent
  allows := List.forall_mem_append.mpr
    ⟨invariant.allows, List.forall_mem_singleton.mpr allows⟩
  startMu := by
    rw [Pool.count_start, List.countP_singleton, unlocked]
    exact invariant.startMu
  one := by
    rw [Pool.count_start, List.countP_singleton, apart]
    exact invariant.one
  resting := by
    rw [Pool.count_start, List.countP_singleton, apart]
    exact invariant.resting

/-- The death of a child leaves the goroutines as they are. -/
theorem Invariant.exit (invariant : Invariant state) (gone : Nat) :
    Invariant { state with shared :=
      { state.shared with alive := state.shared.alive.erase gone } } := by
  have fewer : ∀ other ∈ state.shared.alive.erase gone, other ∈ state.shared.alive :=
    fun other inside => List.mem_of_mem_erase inside
  have none : state.shared.alive = [] → state.shared.alive.erase gone = [] := by
    intro none
    rw [none]
    rfl
  obtain ⟨⟨child, known, failed, reaped, killed, returned⟩, allows, startMu, one,
    resting⟩ := invariant
  refine ⟨⟨?_, known, ?_, ?_, killed, ?_⟩, ?_, startMu, one, ?_⟩
  · rcases child with empty | ⟨other, command, single⟩
    · exact .inl (none empty)
    · by_cases same : other = gone
      · left
        simp [single, same]
      · refine .inr ⟨other, command, ?_⟩
        simp [single, same]
  · exact fun other member =>
      ⟨(failed other member).1, fun inside =>
        (failed other member).2 (fewer other inside)⟩
  · exact fun other member =>
      ⟨(reaped other member).1, fun inside =>
        (reaped other member).2 (fewer other inside)⟩
  · exact fun ended => ⟨(returned ended).1, none (returned ended).2⟩
  · exact fun stage inside => (allows stage inside).mono none rfl id id
      (fun _ => rfl) (fun _ => rfl)
  · exact fun idle notStopped => none (resting idle notStopped)

theorem Invariant.greet (invariant : Invariant state) (greeted unread : List Nat) :
    Invariant { state with shared :=
      { state.shared with greeted := greeted, unread := unread } } := by
  obtain ⟨⟨child, known, failed, reaped, killed, returned⟩, allows, startMu, one,
    resting⟩ := invariant
  refine ⟨⟨child, known, failed, reaped, killed, returned⟩, ?_, startMu, one,
    resting⟩
  exact fun stage inside => (allows stage inside).mono id rfl id id
    (fun _ => rfl) (fun _ => rfl)

theorem Invariant.step (invariant : Invariant state) {label : Label}
    (inTurn : InTurn state label)
    (taken : NativeSupervisor.step maxRestartAttempts state label =
      some next) : Invariant next := by
  cases label with
  | start | stop =>
      simp only [NativeSupervisor.step, Option.ite_none_left_eq_some,
        Option.some.injEq] at taken
      obtain ⟨-, rfl⟩ := taken
      exact invariant.start trivial rfl rfl
  | stage stage ok =>
      simp only [NativeSupervisor.step, Option.ite_none_left_eq_some] at taken
      obtain ⟨more, proceeded⟩ := Pool.proceeded_of_proceed taken.2
      exact invariant.proceed proceeded inTurn
  | greet id =>
      simp only [NativeSupervisor.step, Option.ite_none_right_eq_some,
        Option.some.injEq] at taken
      obtain ⟨-, rfl⟩ := taken
      exact invariant.greet _ _
  | exit id =>
      simp only [NativeSupervisor.step, Option.ite_none_right_eq_some,
        Option.some.injEq] at taken
      obtain ⟨-, rfl⟩ := taken
      exact invariant.exit id

end Steps

/-! ### Every run -/

theorem supervises_of_inTurn (maxRestartAttempts : Nat) (labels : List Label)
    (inTurn : AllSteps (step maxRestartAttempts) InTurn initial labels) :
    AllStates (step maxRestartAttempts) Supervises initial labels :=
  (allStates_of_allSteps (fun invariant inTurn taken =>
    Invariant.step invariant inTurn taken) Invariant.initial inTurn).mono
      fun _ invariant => invariant.supervised

/-- A child is started and comes up. -/
def comesUp (id : Nat) (caller : Caller) : List Label :=
  [.stage (.doStart caller) true, .stage (.create caller) true,
    .stage (.spawn caller) true, .greet id, .stage (.handshake caller) true,
    .stage (.connect caller) true, .stage (.waitReady caller) true]

/-- The calls of `Start` up to that of `doStart` -/
def starts : List Label :=
  [.start, .stage .startLock true, .stage .startTest true,
    .stage .startListen true]

/-- The child crashes and is waited for. -/
def crashes (id : Nat) : List Label :=
  [.stage .loop true, .stage .lockWait true, .exit id, .stage .wait true,
    .stage .recheck true, .stage .restart true, .stage .testRestart true]

/-- The supervisor is stopped after a restart. -/
def stopsAfterRestart : List Label :=
  starts ++ comesUp 0 .start ++ crashes 0 ++ [.stage .closeClient true] ++
    comesUp 1 .restart ++ [.stop, .stage .stopLock true, .stage .stopKill true,
      .exit 1, .stage .stopWait true]

theorem stopsAfterRestart_supervises :
    AllStates (step 10) Supervises initial stopsAfterRestart := by
  apply supervises_of_inTurn
  iterate 2 apply allSteps_cons_of_step rfl trivial
  apply allSteps_cons_of_step rfl (.inr rfl)
  iterate 5 apply allSteps_cons_of_step rfl trivial
  iterate 2 apply allSteps_cons_of_step rfl nofun
  iterate 13 apply allSteps_cons_of_step rfl trivial
  iterate 2 apply allSteps_cons_of_step rfl nofun
  iterate 3 apply allSteps_cons_of_step rfl trivial
  apply allSteps_cons_of_step rfl
  · rfl
  iterate 2 apply allSteps_cons_of_step rfl trivial
  trivial

/-- The handshake of a child is not received in time. -/
def timesOut : List Label :=
  starts ++ [.stage (.doStart .start) true, .stage (.create .start) true,
    .stage (.spawn .start) true, .stage (.handshake .start) false]

/-- A stop after the last test of `p.stopped` finds the child that crashed; the
next one is started all the same. -/
def stopsTooEarly : List Label :=
  starts ++ comesUp 0 .start ++ crashes 0 ++
    [.stop, .stage .stopLock true, .stage .stopKill true,
      .stage .closeClient true, .stage (.doStart .restart) true,
      .stage (.create .restart) true, .stage (.spawn .restart) true]

/-- A child lives on after `doStart` has returned an error, and another after
`Stop` has returned. -/
theorem timesOut_not_supervises :
    ¬ AllStates (step 10) Supervises initial timesOut ∧
      ¬ AllStates (step 10) Supervises initial stopsTooEarly := by
  decide

end NativeSupervisor

end JetKvm
