import JetKvm.LabelledRuns
import Mathlib.Data.List.Infix

/-!
# The handshake of the native process

Translation of `nativeProxyStdoutHandler.Write` and of the wait of
`setUpGRPCClient` in `internal/native/proxy.go`.  The output of the child
reaches `Write` in pieces that nobody chooses.  A `Write` that sends to the
unbuffered channel holds the lock until the waiting side receives, and that
side may have given up.
-/

namespace JetKvm

namespace NativeHandshake

open LabelledRuns

abbrev Bytes := List UInt8

/-- Where `setUpGRPCClient` is. -/
inductive Waiting where
  | waits
  | received
  | timedOut
  deriving DecidableEq, Repr

/-- `sending` tells that a `Write` is in its send, `signals` counts the sends
that were begun, and `stdout` is what was forwarded.  `written` are the pieces
that `Write` was called with. -/
structure State where
  handshakeDone : Bool := false
  sending : Bool := false
  signals : Nat := 0
  stdout : Bytes := []
  waiting : Waiting := .waits
  written : List Bytes := []
  deriving DecidableEq, Repr

inductive Label where
  | write (p : Bytes)
  | receive
  | timeout
  deriving DecidableEq, Repr

variable (handshakeMessage : Bytes)

/-- `strings.Contains(string(p), w.handshakeMessage)` -/
def contains (p : Bytes) : Bool := handshakeMessage <:+: p

/-- `Write`, up to the receipt of what it sends. -/
def State.write (state : State) (p : Bytes) : State :=
  if !state.handshakeDone && contains handshakeMessage p then
    { state with
      handshakeDone := true
      sending := true
      signals := state.signals + 1
      written := state.written ++ [p] }
  else
    { state with
      stdout := state.stdout ++ p
      written := state.written ++ [p] }

/-- The lock keeps other calls of `Write` out while one sends.  The `select`
may take either case when both are ready. -/
def step (state : State) : Label → Option State
  | .write p =>
      if state.sending then none else some (state.write handshakeMessage p)
  | .receive =>
      if state.sending ∧ state.waiting = .waits then
        some { state with sending := false, waiting := .received }
      else none
  | .timeout =>
      if state.waiting = .waits then some { state with waiting := .timedOut }
      else none

/-- The pieces that are written along a run. -/
def piecesOf (labels : List Label) : List Bytes :=
  labels.filterMap fun label =>
    match label with
    | .write p => some p
    | _ => none

/-- A `Write` waits for a receiver that has given up. -/
def Blocked (state : State) : Prop :=
  state.sending = true ∧ state.waiting = .timedOut

/-- The handshake is signalled once, and all of the output but the message is
forwarded. -/
structure Detects (state : State) : Prop where
  once : state.signals = 1
  forwards : ∃ before after,
    state.written.flatten = before ++ handshakeMessage ++ after ∧
      state.stdout = before ++ after

/-- The first piece with the message in it is the message alone. -/
def ArrivesAlone (pieces : List Bytes) : Prop :=
  pieces.find? (contains handshakeMessage) = some handshakeMessage

instance (pieces : List Bytes) :
    Decidable (ArrivesAlone handshakeMessage pieces) :=
  inferInstanceAs (Decidable (_ = _))

/-- The message is not sent to a receiver that has given up, which does not
give up while it is sent to. -/
def InTime (state : State) : Label → Prop
  | .write p => state.waiting = .timedOut →
      (!state.handshakeDone && contains handshakeMessage p) = false
  | .receive => True
  | .timeout => state.sending = false

instance (state : State) (label : Label) :
    Decidable (InTime handshakeMessage state label) := by
  cases label <;> unfold InTime <;> infer_instance

variable {handshakeMessage} {state next : State} {label : Label}

/-! ### What is signalled and forwarded -/

/-- What the pieces leave, whichever way the receiver goes. -/
structure Follows (handshakeMessage : Bytes) (state : State) : Prop where
  handshakeDone : state.handshakeDone =
    state.written.any (contains handshakeMessage)
  signals : state.signals = state.handshakeDone.toNat
  stdout : state.stdout =
    (state.written.eraseP (contains handshakeMessage)).flatten

theorem Follows.write (follows : Follows handshakeMessage state) (p : Bytes) :
    Follows handshakeMessage (state.write handshakeMessage p) := by
  have notDone : state.handshakeDone = false → ∀ piece ∈ state.written,
      ¬ contains handshakeMessage piece = true := by
    intro notYet piece member found
    rw [follows.handshakeDone, List.any_eq_false] at notYet
    exact notYet piece member found
  unfold State.write
  cases done : state.handshakeDone with
  | true =>
      have before := done
      rw [follows.handshakeDone, List.any_eq_true] at before
      obtain ⟨piece, member, found⟩ := before
      rw [if_neg (by simp)]
      refine ⟨?_, ?_, ?_⟩
      · rw [List.any_append, ← follows.handshakeDone, done, Bool.true_or]
      · rw [follows.signals, done]
      · dsimp only
        rw [List.eraseP_append_left found _ member, List.flatten_append,
          ← follows.stdout, List.flatten_singleton]
  | false =>
      have none := notDone done
      cases found : contains handshakeMessage p with
      | true =>
          rw [if_pos (by simp)]
          refine ⟨by simp [found], ?_, ?_⟩
          · dsimp only
            rw [follows.signals, done]
            rfl
          · dsimp only
            rw [List.eraseP_append_right _ none, List.flatten_append,
              follows.stdout, List.eraseP_of_forall_not none]
            simp [found]
      | false =>
          rw [if_neg (by simp)]
          refine ⟨?_, ?_, ?_⟩
          · simp [found, ← follows.handshakeDone, done]
          · rw [follows.signals, done]
          · dsimp only
            rw [List.eraseP_append_right _ none, List.flatten_append,
              follows.stdout, List.eraseP_of_forall_not none]
            simp [found]

theorem Follows.step (follows : Follows handshakeMessage state)
    (taken : NativeHandshake.step handshakeMessage state label = some next) :
    Follows handshakeMessage next ∧
      next.written = state.written ++ piecesOf [label] := by
  unfold NativeHandshake.step at taken
  cases label with
  | write p =>
      dsimp only at taken
      split at taken
      · cases taken
      · obtain rfl := Option.some.inj taken
        refine ⟨follows.write p, ?_⟩
        unfold State.write
        split <;> rfl
  | receive | timeout =>
      dsimp only at taken
      split at taken
      · obtain rfl := Option.some.inj taken
        exact ⟨⟨follows.handshakeDone, follows.signals, follows.stdout⟩,
          (List.append_nil _).symm⟩
      · cases taken

theorem Follows.exec {labels : List Label} {last : State}
    (follows : Follows handshakeMessage state)
    (ran : LabelledRuns.exec (NativeHandshake.step handshakeMessage) state
      labels = some last) :
    Follows handshakeMessage last ∧
      last.written = state.written ++ piecesOf labels := by
  induction labels generalizing state with
  | nil =>
      cases ran
      exact ⟨follows, (List.append_nil _).symm⟩
  | cons label labels ih =>
      obtain ⟨next, taken, ran⟩ := exists_first_step ran
      obtain ⟨here, written⟩ := follows.step taken
      obtain ⟨later, rest⟩ := ih here ran
      refine ⟨later, ?_⟩
      rw [rest, written, List.append_assoc]
      congr 1
      unfold piecesOf
      rw [← List.filterMap_append, List.singleton_append]

/-- The message is found, and alone, if and only if it makes up the first piece
that has it. -/
theorem Follows.detects_iff (follows : Follows handshakeMessage state) :
    Detects handshakeMessage state ↔
      ArrivesAlone handshakeMessage state.written := by
  unfold ArrivesAlone
  constructor
  · rintro ⟨once, before, after, whole, forwarded⟩
    rw [follows.signals] at once
    have done : state.written.any (contains handshakeMessage) = true := by
      rw [← follows.handshakeDone]
      cases done : state.handshakeDone with
      | true => rfl
      | false =>
          rw [done] at once
          cases once
    obtain ⟨piece, member, found⟩ := List.any_eq_true.mp done
    obtain ⟨first, earlier, later, none, has, split, erased⟩ :=
      List.exists_of_eraseP member found
    rw [follows.stdout, erased, List.flatten_append] at forwarded
    rw [split, List.flatten_append, List.flatten_cons] at whole
    have lengths := congrArg List.length whole
    have shorter := congrArg List.length forwarded
    simp only [List.length_append] at lengths shorter
    have alone : handshakeMessage = first :=
      (of_decide_eq_true has).eq_of_length (by omega)
    rw [split, List.find?_append, List.find?_eq_none.mpr none,
      List.find?_cons_of_pos has, ← alone]
    rfl
  · intro found
    obtain ⟨has, earlier, later, split, none⟩ :=
      List.find?_eq_some_iff_append.mp found
    have none : ∀ piece ∈ earlier, ¬ contains handshakeMessage piece = true := by
      intro piece member
      simpa using none piece member
    refine ⟨?_, earlier.flatten, later.flatten, ?_, ?_⟩
    · rw [follows.signals, follows.handshakeDone, split, List.any_append,
        List.any_cons, has, Bool.true_or, Bool.or_true]
      rfl
    · rw [split, List.flatten_append, List.flatten_cons, List.append_assoc]
    · rw [follows.stdout, split, List.eraseP_append_right _ none,
        List.eraseP_cons_of_pos has, List.flatten_append]

/-! ### When a write is left waiting -/

theorem not_blocked_iff
    (taken : step handshakeMessage state label = some next) :
    ¬ Blocked next ↔ InTime handshakeMessage state label := by
  unfold step at taken
  unfold InTime
  cases label with
  | write p =>
      dsimp only at taken ⊢
      split at taken
      · cases taken
      · rename_i idle
        obtain rfl := Option.some.inj taken
        unfold State.write Blocked
        cases matched : (!state.handshakeDone && contains handshakeMessage p) with
        | true => simp
        | false => simp [idle]
  | receive | timeout =>
      dsimp only at taken ⊢
      split at taken
      · obtain rfl := Option.some.inj taken
        simp [Blocked]
      · cases taken

/-- However the output is cut and whenever the receiver gives up: along a run
that writes the message somewhere, the handshake is detected and no `Write`
waits forever, if and only if the first piece with the message is the message
alone and is received in time. -/
theorem detected_iff_alone_inTime (handshakeMessage : Bytes)
    (labels : List Label) (last : State)
    (ran : exec (step handshakeMessage) {} labels = some last)
    (_contained : handshakeMessage <:+: (piecesOf labels).flatten) :
    (AllStates (step handshakeMessage) (fun state => ¬ Blocked state) {}
        labels ∧ Detects handshakeMessage last) ↔
      AllSteps (step handshakeMessage) (InTime handshakeMessage) {} labels ∧
        ArrivesAlone handshakeMessage (piecesOf labels) := by
  have start : Follows handshakeMessage {} := ⟨rfl, rfl, rfl⟩
  obtain ⟨follows, written⟩ := start.exec ran
  have pieces : last.written = piecesOf labels := written
  rw [follows.detects_iff, pieces]
  refine and_congr_left fun _ => ?_
  exact @allStates_iff_allSteps_of_invariant State Label
    (step handshakeMessage) (fun _ => True) (fun state => ¬ Blocked state)
    (InTime handshakeMessage) (fun _ _ => trivial)
    (fun _ _ taken => not_blocked_iff taken) {} trivial
    (fun blocked => nomatch blocked.1) labels

/-- The child prints a line, the message and another line, each at once. -/
theorem detected_iff_alone_inTime_threeWrites :
    ∃ last, exec (step [104, 105]) {}
        [.write [10], .write [104, 105], .receive, .write [33, 10]] =
          some last ∧
      AllStates (step [104, 105]) (fun state => ¬ Blocked state) {}
        [.write [10], .write [104, 105], .receive, .write [33, 10]] ∧
      Detects [104, 105] last :=
  ⟨_, rfl, (detected_iff_alone_inTime [104, 105] _ _ rfl (by decide)).mpr
    ⟨by decide, by decide⟩⟩

/-- The message is cut in two. -/
theorem not_detected :
    ¬ ∀ (handshakeMessage : Bytes) (labels : List Label) (last : State),
      exec (step handshakeMessage) {} labels = some last →
      handshakeMessage <:+: (piecesOf labels).flatten →
      AllStates (step handshakeMessage) (fun state => ¬ Blocked state) {}
          labels ∧ Detects handshakeMessage last := by
  intro claimed
  obtain ⟨-, once, -⟩ := claimed [104, 105] [.write [104], .write [105]] _ rfl
    (by decide)
  cases once

end NativeHandshake

end JetKvm
