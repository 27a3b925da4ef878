import JetKvm.ConfigDurability
import JetKvm.FallibleCalls
import JetKvm.LabelledRuns

/-!
# The schedule of the jiggler

Translation of `rpcSetJigglerConfig`, `initJiggler`, `runJigglerCronTab` and
`calculateJobDelta` of `jiggler.go`, with what `gocron` documents of schedulers
and jobs.  A change assigns the configuration and removes the old job before
anything is known to be valid.
-/

namespace JetKvm

namespace JigglerSchedule

open ConfigDurability (JigglerConfig)
open Fallible LabelledRuns

/-! ### Schedulers and jobs -/

/-- A job has an identifier of its own, and a time between its next two runs. -/
structure Job where
  id : Nat
  cronTab : String
  interval : Int
  deriving DecidableEq, Repr

structure Scheduler where
  jobs : List Job := []
  started : Bool := false
  deriving DecidableEq, Repr

/-- The jobs that run -/
def Scheduler.live (scheduler : Scheduler) : List Job :=
  if scheduler.started then scheduler.jobs else []

/-- Besides the scheduler that the variable holds, which may be nil, those that
it held before; identifiers below `nextId` are taken. -/
structure Jiggler where
  jigglerConfig : JigglerConfig
  scheduler : Option Scheduler
  earlier : List Scheduler
  jobDelta : Int
  nextId : Nat
  deriving DecidableEq, Repr

def Jiggler.live (jiggler : Jiggler) : List Job :=
  (jiggler.scheduler.toList ++ jiggler.earlier).flatMap Scheduler.live

/-- How the calls of one change end: an error of each; and the interval of the
new job. An expression that is invalid is an error of `NewJob`. -/
structure Outcomes where
  newScheduler : Option String := none
  newJob : Option String := none
  interval : Int
  nextRuns : Option String := none
  save : Option String := none

def failWith (error : Option String) : Fallible String Jiggler Unit :=
  match error with
  | some error => throw error
  | none => pure ()

section Schedule

-- the time zones that `time.LoadLocation` knows
variable (known : String → Bool)

/-- A zone that is unknown falls back to none. -/
def cronTabOf (config : JigglerConfig) : String :=
  if config.timezone ≠ "" ∧ config.timezone ≠ "UTC" then
    if known config.timezone then
      "TZ=" ++ config.timezone ++ " " ++ config.scheduleCronTab
    else config.scheduleCronTab
  else config.scheduleCronTab

def newJob (cronTab : String) (interval : Int) (jiggler : Jiggler) : Jiggler :=
  { jiggler with
    scheduler := jiggler.scheduler.map fun scheduler =>
      { scheduler with
        jobs := scheduler.jobs ++ [⟨jiggler.nextId, cronTab, interval⟩] }
    nextId := jiggler.nextId + 1 }

def start (jiggler : Jiggler) : Jiggler :=
  { jiggler with
    scheduler := jiggler.scheduler.map fun scheduler =>
      { scheduler with started := true } }

/-- The interval of the first job; an error comes with no time. -/
def calculateJobDelta (outcomes : Outcomes) (jiggler : Jiggler) : Int :=
  match outcomes.nextRuns with
  | some _ => 0
  | none =>
      match jiggler.scheduler.bind fun scheduler => scheduler.jobs.head? with
      | some job => job.interval
      | none => 0

def runJigglerCronTab (outcomes : Outcomes) : Fallible String Jiggler Unit := do
  let jiggler ← get
  let cronTab := cronTabOf known jiggler.jigglerConfig
  failWith outcomes.newScheduler
  modify fun jiggler => { jiggler with
    scheduler := some {}
    earlier := jiggler.scheduler.toList ++ jiggler.earlier }
  failWith outcomes.newJob
  modify (newJob cronTab outcomes.interval)
  modify start
  modify fun jiggler => { jiggler with
    jobDelta := calculateJobDelta outcomes jiggler }
  failWith outcomes.nextRuns

/-- A nil scheduler ends the call with a panic. -/
def removeExistingCronJobs : Fallible String Jiggler Unit := do
  let jiggler ← get
  match jiggler.scheduler with
  | none => throw "invalid memory address or nil pointer dereference"
  | some scheduler =>
      modify fun jiggler => { jiggler with
        scheduler := some { scheduler with jobs := [] } }

def rpcSetJigglerConfig (jigglerConfig : JigglerConfig) (outcomes : Outcomes) :
    Fallible String Jiggler Unit := do
  modify fun jiggler => { jiggler with jigglerConfig := jigglerConfig }
  removeExistingCronJobs
  wrapping ("error scheduling jiggler crontab: " ++ ·)
    (runJigglerCronTab known outcomes)
  wrapping ("failed to save config: " ++ ·) (failWith outcomes.save)

/-! ### One schedule -/

structure Call where
  jigglerConfig : JigglerConfig
  outcomes : Outcomes

def step (jiggler : Jiggler) (call : Call) : Option Jiggler :=
  some ((rpcSetJigglerConfig known call.jigglerConfig call.outcomes).after jiggler)

/-- The one live job is the one of the configuration. -/
def Scheduled (jiggler : Jiggler) : Prop :=
  ∃ job, jiggler.live = [job] ∧
    job.cronTab = cronTabOf known jiggler.jigglerConfig ∧
      jiggler.jobDelta = job.interval

/-- The one live job is in the scheduler, and those before it have none. -/
structure Settled (jiggler : Jiggler) (job : Job) : Prop where
  scheduler : jiggler.scheduler = some ⟨[job], true⟩
  earlier : ∀ scheduler ∈ jiggler.earlier, scheduler.jobs = []
  cronTab : job.cronTab = cronTabOf known jiggler.jigglerConfig
  jobDelta : jiggler.jobDelta = job.interval
  taken : job.id < jiggler.nextId

variable {known} {jiggler : Jiggler} {job : Job} {call : Call}

end Schedule

/-! ### A schedule that is refused -/

end JigglerSchedule

end JetKvm
