import JetKvm.LabelledRuns
import Mathlib.Data.List.Infix
import Mathlib.Data.List.TakeWhile

/-!
# The status of the tunnel

Translation of `Start`, `Stop`, `Status` and `scanForURL` of the manager in
`internal/tunnel/cloudflared.go`, and of the goroutine that reaps a process.
One step is one section under the lock, with the line that a scanner has read
before it or the `Wait` that the reaper has returned from.  So a process runs
until it is reaped, and a line is printed when a scanner handles it.  Scanners
go on after the process is reaped.
-/

namespace JetKvm

namespace Tunnel

open LabelledRuns

abbrev Text := List Char

/-! ### The address in a line -/

def scheme : Text := "https://".toList

def domain : Text := ".trycloudflare.com".toList

/-- `[a-z0-9-]` -/
def isHostChar (c : Char) : Bool := c.isLower || c.isDigit || c == '-'

/-- What `trycloudflareURLPattern` matches. -/
def IsTunnelURL (url : Text) : Prop :=
  ∃ host : Text, host ≠ [] ∧ host.all isHostChar = true ∧
    url = scheme ++ host ++ domain

/-- The match that begins where the text does -/
def matchAt (text : Text) : Option Text :=
  let host := (text.drop scheme.length).takeWhile isHostChar
  let after := (text.drop scheme.length).dropWhile isHostChar
  if scheme <+: text ∧ host ≠ [] ∧ domain <+: after then
    some (scheme ++ host ++ domain)
  else none

/-- `trycloudflareURLPattern.FindString`, empty when nothing matches. -/
def findString : Text → Text
  | [] => []
  | c :: text => (matchAt (c :: text)).getD (findString text)

theorem matchAt_sound {text url : Text} (found : matchAt text = some url) :
    IsTunnelURL url ∧ url <+: text := by
  unfold matchAt at found
  dsimp only at found
  split at found
  · rename_i matched
    obtain ⟨⟨rest, begins⟩, present, ⟨after, ends⟩⟩ := matched
    obtain rfl := Option.some.inj found
    refine ⟨⟨_, present, List.all_takeWhile, rfl⟩, after, ?_⟩
    rw [List.append_assoc, ends, List.append_assoc,
      List.takeWhile_append_dropWhile, ← begins, List.drop_left]
  · cases found

theorem matchAt_complete {text url : Text} (isURL : IsTunnelURL url)
    (begins : url <+: text) : matchAt text = some url := by
  obtain ⟨host, present, allowed, rfl⟩ := isURL
  obtain ⟨rest, rfl⟩ := begins
  have allowed : ∀ c ∈ host, isHostChar c = true :=
    List.all_eq_true.mp allowed
  have stops : (domain ++ rest).takeWhile isHostChar = [] := rfl
  have same : (domain ++ rest).dropWhile isHostChar = domain ++ rest := rfl
  unfold matchAt
  dsimp only
  rw [List.append_assoc, List.append_assoc, List.drop_left,
    List.takeWhile_append_of_pos allowed, List.dropWhile_append_of_pos allowed,
    stops, same, List.append_nil, if_pos]
  exact ⟨List.prefix_append _ _, present, List.prefix_append _ _⟩

theorem findString_sound {line : Text} (found : findString line ≠ []) :
    IsTunnelURL (findString line) ∧ findString line <:+: line := by
  induction line with
  | nil => exact absurd rfl found
  | cons c text ih =>
      unfold findString at found ⊢
      cases here : matchAt (c :: text) with
      | some url =>
          obtain ⟨isURL, begins⟩ := matchAt_sound here
          exact ⟨isURL, begins.isInfix⟩
      | none =>
          rw [here, Option.getD_none] at found
          obtain ⟨isURL, within⟩ := ih found
          exact ⟨isURL, List.infix_cons within⟩

theorem IsTunnelURL.ne_nil {url : Text} (isURL : IsTunnelURL url) :
    url ≠ [] := by
  obtain ⟨host, -, -, rfl⟩ := isURL
  exact List.cons_ne_nil _ _

theorem findString_complete {line url : Text} (isURL : IsTunnelURL url)
    (within : url <:+: line) : findString line ≠ [] := by
  induction line with
  | nil => exact absurd (List.infix_nil.mp within) isURL.ne_nil
  | cons c text ih =>
      unfold findString
      cases here : matchAt (c :: text) with
      | some found => exact (matchAt_sound here).1.ne_nil
      | none =>
          refine ih ((List.infix_cons_iff.mp within).resolve_left ?_)
          intro begins
          rw [matchAt_complete isURL begins] at here
          cases here

/-! ### The manager and its processes -/

/-- What `Start` fails with, before and in the spawn of the process. -/
inductive StartFailure where
  | binary (error : String)
  | stderrPipe (error : String)
  | stdoutPipe (error : String)
  | start (error : String)
  | notRunnable (binPath error : String)

/-- The text that `Start` leaves in `LastError`. -/
def StartFailure.lastError : StartFailure → String
  | .binary error => error
  | .stderrPipe error => "stderr pipe: " ++ error
  | .stdoutPipe error => "stdout pipe: " ++ error
  | .start error => "start: " ++ error
  | .notRunnable binPath _ =>
      "cloudflared not runnable at " ++ binPath ++ " — try `scripts/" ++
        "build_cloudflared.sh` and re-deploy the firmware"

structure TunnelState where
  active : Bool := false
  starting : Bool := false
  url : Text := []
  startedAt : Nat := 0
  lastError : String := ""

/-- A process that was spawned: whether it is still to be reaped, and the lines
of it that the scanners have handled. -/
structure Process where
  running : Bool := true
  lines : List Text := []

/-- The manager, `cmd` by the number of its process, and all the processes that
were spawned. -/
structure Manager where
  cmd : Option Nat := none
  state : TunnelState := {}
  processes : List Process := []

/-- `Start`, with what comes of the spawn at the time `now`. -/
def Manager.start (m : Manager) (now : Nat)
    (spawned : Except StartFailure Unit) : Manager :=
  if m.cmd.isSome then m
  else
    match spawned with
    | .error failure =>
        { m with state := { m.state with lastError := failure.lastError } }
    | .ok _ =>
        { cmd := some m.processes.length
          state := { starting := true, startedAt := now }
          processes := m.processes ++ [{}] }

/-- What `scanForURL` does with a match, under the lock. -/
def TunnelState.capture (state : TunnelState) (found : Text) : TunnelState :=
  if found = [] then state
  else if state.url = [] then
    { state with
      url := found
      active := true
      starting := false
      lastError := "" }
  else state

def Manager.scanForURL (m : Manager) (id : Nat) (line : Text) : Manager :=
  { m with
    state := m.state.capture (findString line)
    processes := m.processes.modify id fun process =>
      { process with lines := process.lines ++ [line] } }

/-- The goroutine that waits for the process, with the error of `Wait`. -/
def Manager.reap (m : Manager) (id : Nat) (exited : Option String) : Manager :=
  { cmd := none
    state :=
      match exited with
      | some error =>
          { m.state with
            active := false
            starting := false
            lastError := "cloudflared exited: " ++ error
            url := [] }
      | none => { m.state with active := false, starting := false }
    processes := m.processes.modify id fun process =>
      { process with running := false } }

inductive Label where
  | start (now : Nat) (spawned : Except StartFailure Unit)
  | stop
  | status
  | scan (id : Nat) (line : Text)
  | reap (id : Nat) (exited : Option String)

/-- The process was spawned and is not reaped. -/
def Manager.isRunning (m : Manager) (id : Nat) : Bool :=
  (m.processes[id]?.map Process.running).getD false

/-- `Stop` signals the process and leaves it to the reaper to tell so. -/
def step (m : Manager) : Label → Option Manager
  | .start now spawned => some (m.start now spawned)
  | .stop => some m
  | .status => some m
  | .scan id line =>
      if id < m.processes.length then some (m.scanForURL id line) else none
  | .reap id exited =>
      if m.isRunning id then some (m.reap id exited) else none

/-! ### What the status should tell -/

/-- The address is in a line of the process. -/
def Process.Printed (process : Process) (url : Text) : Prop :=
  IsTunnelURL url ∧ ∃ line ∈ process.lines, url <:+: line

/-- What `Status` tells is so of the process of the latest successful
`Start`. -/
structure Truthful (m : Manager) : Prop where
  active : m.state.active = true →
    ∃ latest, m.processes.getLast? = some latest ∧ latest.running = true ∧
      latest.Printed m.state.url
  starting : m.state.starting = true →
    ∃ latest, m.processes.getLast? = some latest ∧ latest.running = true ∧
      ∀ url, ¬ latest.Printed url

/-- No line with an address comes from a reaped process while no address is
known. -/
def Fresh (m : Manager) : Label → Prop
  | .scan id line =>
      findString line ≠ [] → m.state.url = [] → m.isRunning id = true
  | _ => True

/-- At most the latest process runs, and `cmd` tells whether it does. -/
structure Owned (m : Manager) : Prop where
  latest : ∀ id, m.cmd = some id → id + 1 = m.processes.length
  running : ∀ id, m.isRunning id = true ↔ m.cmd = some id
  starting : m.state.starting = true → m.state.url = []
  silent : ∀ id process, m.cmd = some id → m.processes[id]? = some process →
    m.state.url = [] → ∀ url, ¬ process.Printed url

variable {m next : Manager} {label : Label}

theorem isRunning_eq_true_iff {id : Nat} :
    m.isRunning id = true ↔
      ∃ process, m.processes[id]? = some process ∧ process.running = true := by
  unfold Manager.isRunning
  cases m.processes[id]? with
  | none => simp
  | some process => simp

theorem Process.Printed.of_findString {process : Process} {line : Text}
    (member : line ∈ process.lines) (found : findString line ≠ []) :
    process.Printed (findString line) :=
  ⟨(findString_sound found).1, line, member, (findString_sound found).2⟩

theorem not_printed_iff {process : Process} :
    (∀ url, ¬ process.Printed url) ↔
      ∀ line ∈ process.lines, findString line = [] := by
  constructor
  · intro none line member
    by_contra found
    exact none _ (Process.Printed.of_findString member found)
  · rintro none url ⟨isURL, line, member, within⟩
    exact findString_complete isURL within (none line member)

theorem isRunning_scanForURL {id other : Nat} {line : Text} :
    (m.scanForURL id line).isRunning other = m.isRunning other := by
  unfold Manager.isRunning Manager.scanForURL
  dsimp only
  rw [List.getElem?_modify]
  split
  · cases m.processes[other]? <;> rfl
  · simp

theorem isRunning_reap {id other : Nat} {exited : Option String} :
    (m.reap id exited).isRunning other =
      (decide (id ≠ other) && m.isRunning other) := by
  unfold Manager.isRunning Manager.reap
  dsimp only
  rw [List.getElem?_modify]
  split
  · cases m.processes[other]? <;> simp [*]
  · simp [*]

theorem Owned.start (owned : Owned m) (now : Nat)
    (spawned : Except StartFailure Unit) : Owned (m.start now spawned) := by
  unfold Manager.start
  split
  · exact owned
  · rename_i free
    rw [Option.isSome_iff_ne_none, not_not] at free
    cases spawned with
    | error failure =>
        exact ⟨owned.latest, owned.running, owned.starting, owned.silent⟩
    | ok spawned =>
        have stopped : ∀ id, m.isRunning id = false := by
          intro id
          rw [Bool.eq_false_iff, ne_eq, owned.running, free]
          exact (Option.some_ne_none id).symm
        refine ⟨?_, ?_, fun _ => rfl, ?_⟩
        · rintro id cmd
          obtain rfl := Option.some.inj cmd
          simp
        · intro id
          have earlier := stopped id
          unfold Manager.isRunning at earlier ⊢
          rcases lt_trichotomy id m.processes.length with before | rfl | after
          · rw [List.getElem?_append_left before, earlier]
            exact ⟨fun runs => absurd runs Bool.false_ne_true,
              fun same => absurd (Option.some.inj same) before.ne'⟩
          · simp
          · rw [List.getElem?_eq_none (by simp; omega)]
            exact ⟨fun runs => absurd runs Bool.false_ne_true,
              fun same => absurd (Option.some.inj same) after.ne⟩
        · rintro id process cmd there -
          obtain rfl := Option.some.inj cmd
          obtain rfl : ({} : Process) = process := by simpa using there
          exact not_printed_iff.mpr fun line member =>
            absurd member List.not_mem_nil

theorem Owned.scanForURL (owned : Owned m) (id : Nat) (line : Text) :
    Owned (m.scanForURL id line) := by
  refine ⟨?_, ?_, ?_, ?_⟩
  · intro other cmd
    rw [owned.latest other cmd]
    exact (List.length_modify ..).symm
  · intro other
    rw [isRunning_scanForURL]
    exact owned.running other
  · unfold Manager.scanForURL TunnelState.capture
    dsimp only
    split
    · exact owned.starting
    · split
      · exact nofun
      · exact owned.starting
  · intro other process cmd there unknown
    have url : m.state.url = [] ∧ findString line = [] := by
      unfold Manager.scanForURL TunnelState.capture at unknown
      dsimp only at unknown
      split at unknown
      · exact ⟨unknown, ‹_›⟩
      · split at unknown
        · exact absurd unknown ‹_›
        · exact absurd unknown ‹_›
    unfold Manager.scanForURL at there
    rw [List.getElem?_modify] at there
    cases before : m.processes[other]? with
    | none => simp [before] at there
    | some earlier =>
        have none := not_printed_iff.mp
          (owned.silent other earlier cmd before url.1)
        rw [not_printed_iff]
        rw [before] at there
        split at there
        · obtain rfl := Option.some.inj there
          intro printed member
          rcases List.mem_append.mp member with old | new
          · exact none printed old
          · rw [List.mem_singleton.mp new]
            exact url.2
        · obtain rfl : earlier = process := by simpa using there
          exact none

theorem Owned.reap (owned : Owned m) {id : Nat} (exited : Option String)
    (running : m.isRunning id = true) : Owned (m.reap id exited) := by
  refine ⟨nofun, ?_, ?_, nofun⟩
  · intro other
    rw [isRunning_reap, Bool.and_eq_true, decide_eq_true_eq, owned.running]
    have cmd := (owned.running id).mp running
    constructor
    · rintro ⟨apart, same⟩
      exact absurd (Option.some.inj (cmd.symm.trans same)) apart
    · exact nofun
  · unfold Manager.reap
    cases exited with
    | none => exact nofun
    | some error => exact nofun

theorem Owned.step (owned : Owned m)
    (taken : Tunnel.step m label = some next) : Owned next := by
  unfold Tunnel.step at taken
  cases label with
  | start now spawned =>
      obtain rfl := Option.some.inj taken
      exact owned.start now spawned
  | stop =>
      obtain rfl := Option.some.inj taken
      exact owned
  | status =>
      obtain rfl := Option.some.inj taken
      exact owned
  | scan id line =>
      dsimp only at taken
      split at taken
      · obtain rfl := Option.some.inj taken
        exact owned.scanForURL id line
      · cases taken
  | reap id exited =>
      dsimp only at taken
      split at taken
      · obtain rfl := Option.some.inj taken
        exact owned.reap exited ‹_›
      · cases taken

/-! ### Whether a step leaves the status truthful -/

theorem Owned.getLast? (owned : Owned m) {id : Nat} (cmd : m.cmd = some id) :
    m.processes.getLast? = m.processes[id]? := by
  rw [List.getLast?_eq_getElem?, ← owned.latest id cmd, Nat.add_sub_cancel]

/-- The latest process, where it runs, is the command. -/
theorem Owned.cmd_of_latest (owned : Owned m) {latest : Process}
    (last : m.processes.getLast? = some latest)
    (running : latest.running = true) :
    m.cmd = some (m.processes.length - 1) := by
  rw [← owned.running, isRunning_eq_true_iff]
  exact ⟨latest, by rw [← last, List.getLast?_eq_getElem?], running⟩

theorem Truthful.start (truthful : Truthful m) (now : Nat)
    (spawned : Except StartFailure Unit) : Truthful (m.start now spawned) := by
  unfold Manager.start
  split
  · exact truthful
  · cases spawned with
    | error failure => exact ⟨truthful.active, truthful.starting⟩
    | ok spawned =>
        refine ⟨nofun, fun _ => ⟨{}, List.getLast?_concat, rfl, ?_⟩⟩
        exact not_printed_iff.mpr fun line member => nomatch member

theorem Truthful.reap (id : Nat) (exited : Option String) :
    Truthful (m.reap id exited) := by
  unfold Manager.reap
  cases exited with
  | none => exact ⟨nofun, nofun⟩
  | some error => exact ⟨nofun, nofun⟩

/-- The latest process after a line is handled. -/
theorem getLast?_scanForURL (id : Nat) (line : Text) :
    (m.scanForURL id line).processes.getLast? =
      m.processes.getLast?.map fun latest =>
        if id + 1 = m.processes.length then
          { latest with lines := latest.lines ++ [line] }
        else latest := by
  unfold Manager.scanForURL
  dsimp only
  rw [List.getLast?_eq_getElem?, List.getLast?_eq_getElem?, List.length_modify,
    List.getElem?_modify]
  cases there : m.processes[m.processes.length - 1]? with
  | none => rfl
  | some latest =>
      have bound := (List.getElem?_eq_some_iff.mp there).1
      rw [Option.map_some]
      split
      · rw [if_pos (by omega)]
        rfl
      · rw [if_neg (by omega)]
        rfl

/-- A line leaves what is known alone, or its address becomes known. -/
theorem scanForURL_cases (m : Manager) (id : Nat) (line : Text) :
    ((findString line = [] ∨ m.state.url ≠ []) ∧
        (m.scanForURL id line).state = m.state) ∨
      (findString line ≠ [] ∧ m.state.url = [] ∧
        (m.scanForURL id line).state.url = findString line ∧
        (m.scanForURL id line).state.active = true ∧
        (m.scanForURL id line).state.starting = false) := by
  unfold Manager.scanForURL TunnelState.capture
  dsimp only
  split
  · exact .inl ⟨.inl ‹_›, rfl⟩
  · split
    · exact .inr ⟨‹_›, ‹_›, rfl, rfl, rfl⟩
    · exact .inl ⟨.inr ‹_›, rfl⟩

/-- A line that leaves what is known alone leaves it truthful. -/
theorem Truthful.scanForURL (truthful : Truthful m) (owned : Owned m)
    {id : Nat} {line : Text}
    (known : findString line = [] ∨ m.state.url ≠ [])
    (same : (m.scanForURL id line).state = m.state) :
    Truthful (m.scanForURL id line) := by
  constructor
  · intro active
    rw [same] at active ⊢
    obtain ⟨latest, last, running, isURL, printed, member, within⟩ :=
      truthful.active active
    rw [getLast?_scanForURL, last]
    refine ⟨_, rfl, ?_, ?_⟩
    · split <;> exact running
    · refine ⟨isURL, printed, ?_, within⟩
      split
      · exact List.mem_append_left _ member
      · exact member
  · intro starting
    rw [same] at starting
    have unknown := owned.starting starting
    have none := known.resolve_right (not_not.mpr unknown)
    obtain ⟨latest, last, running, silent⟩ := truthful.starting starting
    rw [getLast?_scanForURL, last]
    refine ⟨_, rfl, ?_, ?_⟩
    · split <;> exact running
    · rw [not_printed_iff] at silent ⊢
      split
      · intro printed member
        rcases List.mem_append.mp member with old | new
        · exact silent printed old
        · rw [List.mem_singleton.mp new]
          exact none
      · exact silent

/-- An address that becomes known is of the latest process exactly where the
process it comes from runs: no other that runs has printed one. -/
theorem truthful_scanForURL_iff (owned : Owned m) {id : Nat} {line : Text}
    (found : findString line ≠ []) (unknown : m.state.url = [])
    (url : (m.scanForURL id line).state.url = findString line)
    (active : (m.scanForURL id line).state.active = true)
    (starting : (m.scanForURL id line).state.starting = false) :
    Truthful (m.scanForURL id line) ↔ m.isRunning id = true := by
  constructor
  · intro truthful
    obtain ⟨told, last, running, printed⟩ := truthful.active active
    rw [getLast?_scanForURL, Option.map_eq_some_iff] at last
    obtain ⟨latest, last, rfl⟩ := last
    have latestRuns : latest.running = true := by
      split at running <;> exact running
    have cmd := owned.cmd_of_latest last latestRuns
    split at printed
    · rename_i isLatest
      rw [owned.running, cmd, ← isLatest, Nat.add_sub_cancel]
    · rw [url] at printed
      refine absurd printed (owned.silent _ latest cmd ?_ unknown _)
      rw [← last, List.getLast?_eq_getElem?]
  · intro running
    have cmd := (owned.running id).mp running
    obtain ⟨process, there, processRuns⟩ := isRunning_eq_true_iff.mp running
    refine ⟨fun _ => ?_, fun told => ?_⟩
    · rw [getLast?_scanForURL, owned.getLast? cmd, there, url]
      refine ⟨_, rfl, ?_, ?_⟩
      · split <;> exact processRuns
      · dsimp only
        rw [if_pos (owned.latest id cmd)]
        exact Process.Printed.of_findString
          (List.mem_append_right _ (List.mem_singleton_self _)) found
    · rw [starting] at told
      cases told

theorem Owned.truthful_iff (owned : Owned m) (truthful : Truthful m)
    (taken : Tunnel.step m label = some next) :
    Truthful next ↔ Fresh m label := by
  unfold Tunnel.step at taken
  cases label with
  | start now spawned =>
      obtain rfl := Option.some.inj taken
      exact iff_of_true (truthful.start now spawned) trivial
  | stop =>
      obtain rfl := Option.some.inj taken
      exact iff_of_true truthful trivial
  | status =>
      obtain rfl := Option.some.inj taken
      exact iff_of_true truthful trivial
  | scan id line =>
      dsimp only at taken
      split at taken
      · obtain rfl := Option.some.inj taken
        rcases scanForURL_cases m id line with
          ⟨known, same⟩ | ⟨found, unknown, url, active, starting⟩
        · refine iff_of_true (truthful.scanForURL owned known same) ?_
          intro found unknown
          exact absurd unknown (known.resolve_left found)
        · rw [truthful_scanForURL_iff owned found unknown url active starting]
          exact ⟨fun running _ _ => running, fun fresh => fresh found unknown⟩
      · cases taken
  | reap id exited =>
      dsimp only at taken
      split at taken
      · obtain rfl := Option.some.inj taken
        exact iff_of_true (Truthful.reap id exited) trivial
      · cases taken

/-- The status is truthful all along a run, if and only if no reaped process
has a line with an address handled while no address is known. -/
theorem truthful_iff_fresh (labels : List Label) :
    AllStates step Truthful {} labels ↔ AllSteps step Fresh {} labels := by
  have owned : Owned {} := by
    refine ⟨nofun, fun id => ?_, nofun, nofun⟩
    exact ⟨nofun, nofun⟩
  exact @allStates_iff_allSteps_of_invariant Manager Label step Owned Truthful
    Fresh (fun owned taken => owned.step taken)
    (fun owned truthful taken => owned.truthful_iff truthful taken) {} owned
    ⟨nofun, nofun⟩ labels

/-- A process is reaped and the next one is started before the line with the
address of the first is handled. -/
theorem not_truthful_stale :
    ¬ ∀ labels : List Label, AllStates step Truthful {} labels := by
  intro claimed
  have reaches := (claimed
    [.start 0 (.ok ()), .reap 0 (some "exit status 1"), .start 5 (.ok ()),
      .scan 0 "https://fast-anvil.trycloudflare.com".toList]).last rfl
  obtain ⟨latest, last, -, -, line, member, -⟩ := reaches.active rfl
  obtain rfl := Option.some.inj last
  cases member

end Tunnel

end JetKvm
