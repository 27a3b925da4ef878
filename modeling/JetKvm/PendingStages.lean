import Mathlib.Data.List.Perm.Basic

/-!
# Operations in progress

Threads that share variables are given by the stages they have still to run:
each stage is one access to what is shared, and leads to further stages.  A
stage that is in progress more than once belongs to as many threads.

What a proof needs to know of the stages in progress is how many of a kind
there are, which one equation tells for any stage that is run.
-/

namespace JetKvm

namespace PendingStages

/-- What the threads share, and the stages in progress -/
structure Pool (Shared Stage : Type*) where
  shared : Shared
  running : List Stage

variable {Shared Stage : Type*}

namespace Pool

/-- An operation begins with its first stages. -/
def start (pool : Pool Shared Stage) (stages : List Stage) : Pool Shared Stage :=
  { pool with running := pool.running ++ stages }

/-- How many of the stages in progress are of a kind -/
def count (pool : Pool Shared Stage) (kind : Stage → Bool) : Nat :=
  pool.running.countP kind

@[simp]
theorem shared_start (pool : Pool Shared Stage) (stages : List Stage) :
    (pool.start stages).shared = pool.shared :=
  rfl

@[simp]
theorem count_start (pool : Pool Shared Stage) (stages : List Stage)
    (kind : Stage → Bool) :
    (pool.start stages).count kind = pool.count kind + stages.countP kind :=
  List.countP_append

/-- Nothing of a kind is in progress where nothing is. -/
theorem count_of_idle {pool : Pool Shared Stage} (idle : pool.running = [])
    (kind : Stage → Bool) : pool.count kind = 0 := by
  rw [count, idle, List.countP_nil]

theorem not_of_count_eq_zero {pool : Pool Shared Stage}
    {kind : Stage → Bool} (none : pool.count kind = 0) {other : Stage}
    (inside : other ∈ pool.running) : kind other = false :=
  Bool.eq_false_iff.mpr (List.countP_eq_zero.mp none other inside)

variable [DecidableEq Stage]

/-- A stage in progress is run, where it is not blocked, and leads to others. -/
def proceed (run : Shared → Stage → Option (Shared × List Stage))
    (pool : Pool Shared Stage) (stage : Stage) : Option (Pool Shared Stage) :=
  if stage ∈ pool.running then
    (run pool.shared stage).map fun result =>
      ⟨result.1, pool.running.erase stage ++ result.2⟩
  else none

/-- A stage that was run, and what it led to -/
structure Proceeded (run : Shared → Stage → Option (Shared × List Stage))
    (pool : Pool Shared Stage) (stage : Stage) (next : Pool Shared Stage)
    (more : List Stage) : Prop where
  member : stage ∈ pool.running
  ran : run pool.shared stage = some (next.shared, more)
  running : next.running = pool.running.erase stage ++ more

variable {run : Shared → Stage → Option (Shared × List Stage)}
  {pool next : Pool Shared Stage} {stage : Stage} {more : List Stage}

theorem proceeded_of_proceed (taken : pool.proceed run stage = some next) :
    ∃ more, Proceeded run pool stage next more := by
  rw [proceed] at taken
  split_ifs at taken with member
  obtain ⟨⟨shared, more⟩, ran, rfl⟩ := Option.map_eq_some_iff.mp taken
  exact ⟨more, member, ran, rfl⟩

/-- The stages of a kind, before and after -/
theorem Proceeded.count (proceeded : Proceeded run pool stage next more)
    (kind : Stage → Bool) :
    next.count kind + (if kind stage then 1 else 0) =
      pool.count kind + more.countP kind := by
  have whole := (List.perm_cons_erase proceeded.member).countP_eq kind
  rw [Pool.count, Pool.count, proceeded.running, List.countP_append, whole,
    List.countP_cons]
  omega

/-- A stage that is run was counted. -/
theorem Proceeded.counted (proceeded : Proceeded run pool stage next more)
    {kind : Stage → Bool} (isKind : kind stage = true) : 0 < pool.count kind :=
  List.countP_pos_iff.mpr ⟨stage, proceeded.member, isKind⟩

/-- Beside the only stage of a kind there is no other of that kind. -/
theorem not_of_mem_erase {kind : Stage → Bool} (one : pool.count kind ≤ 1)
    (member : stage ∈ pool.running) (isKind : kind stage = true)
    {other : Stage} (inside : other ∈ pool.running.erase stage) :
    kind other = false := by
  have whole := (List.perm_cons_erase member).countP_eq kind
  rw [List.countP_cons_of_pos isKind] at whole
  rw [count, whole] at one
  have none : (pool.running.erase stage).countP kind = 0 := by omega
  exact Bool.eq_false_iff.mpr (List.countP_eq_zero.mp none other inside)

end Pool

end PendingStages

end JetKvm
