import JetKvm.ConsoleBroker

/-!
# The echo of what is sent

Which texts of TX events the broker emits.  There is one place for a text that
has to wait for the end of a line.
-/

namespace JetKvm

namespace Console

open LabelledRuns

/-! ### What should be emitted -/

/-- The texts of TX events among the pieces -/
def echoTexts (pieces : List Piece) : List Bytes :=
  (pieces.filter fun piece => piece.source = .tx).map Piece.text

def Echo.waiting (norm : NormalizationOptions) (b : Echo) : List Bytes :=
  (b.pendingTX.map fun tx => normalize norm tx.data).toList

/-- Every text is emitted once and in order, but for one that waits.  It waits
for a timer that will fire, and not past the timer or the end of a line; and
nothing stays in the buffer of a terminal that goes on. -/
structure Lossless (norm : NormalizationOptions) (b : ConsoleBroker) : Prop where
  kept : echoTexts (b.sent ++ b.bufLines) ++ b.echo.waiting norm = b.echoes
  fires : b.echo.pendingTX ≠ none → b.echo.quietTimer = true
  quiet : ∀ next, step norm b (.event .quiet) = some next →
    next.echo.pendingTX = none
  lineEnd : ∀ data next, step norm b (.event (.rx data)) = some next →
    next.echo.rxAtLineEnd = true → next.echo.pendingTX = none
  goesOn : ∀ next, step norm b (.pause false) = some next → next.bufLines = []

/-- What is emitted fits into the buffer of a paused terminal. -/
def BelowLimits (norm : NormalizationOptions) (b : ConsoleBroker) :
    Label → Prop
  | .event event => b.terminalPaused = true →
      ∀ result ∈ b.echo.handle norm event,
        withinLimits (b.bufLines ++ result.2) = true
  | .pause _ => True

/-- No TX event comes while a text waits. -/
def NoneWaits (b : ConsoleBroker) : Label → Prop
  | .event (.tx data _) => data ≠ [] → b.echo.pendingTX = none
  | _ => True

instance (norm : NormalizationOptions) (b : ConsoleBroker) (label : Label) :
    Decidable (BelowLimits norm b label) := by
  cases label <;> unfold BelowLimits <;> infer_instance

instance (b : ConsoleBroker) (label : Label) : Decidable (NoneWaits b label) := by
  rcases label with (_ | _ | _) | _ <;> unfold NoneWaits <;> infer_instance

/-! ### The handlers -/

section Handlers

variable {norm : NormalizationOptions} {b : Echo} {data : Bytes}

theorem echoTexts_append (first second : List Piece) :
    echoTexts (first ++ second) = echoTexts first ++ echoTexts second := by
  unfold echoTexts
  rw [List.filter_append, List.map_append]

/-- What a handler emits -/
structure Emits (pieces : List Piece) (echoes : List Bytes) : Prop where
  text : ∀ piece ∈ pieces, piece.text ≠ []
  echoes : echoTexts pieces = echoes

theorem Emits.append {first second : List Piece} {texts more : List Bytes}
    (emits : Emits first texts) (then_ : Emits second more) :
    Emits (first ++ second) (texts ++ more) :=
  ⟨List.forall_mem_append.mpr ⟨emits.text, then_.text⟩, by
    rw [echoTexts_append, emits.echoes, then_.echoes]⟩

theorem emits_nil : Emits [] [] := ⟨List.forall_mem_nil _, rfl⟩

theorem lineSep_ne_nil (mode : LineEndingMode) : lineSep mode ≠ [] := by
  cases mode <;> exact List.cons_ne_nil _ _

theorem emits_separator_if (breaks : Bool) :
    Emits (if breaks then [separator norm] else []) [] := by
  cases breaks with
  | false => exact emits_nil
  | true =>
      exact ⟨List.forall_mem_singleton.mpr (lineSep_ne_nil _), rfl⟩

theorem emits_emitTX (present : data ≠ []) (origin : TXOrigin) :
    Emits (b.emitTX norm data origin).2 [normalize norm data] := by
  have text : normalize norm data ≠ [] := normalize_ne_nil present
  unfold Echo.emitTX
  rw [if_neg present]
  dsimp only
  rw [if_neg text]
  have piece : ∀ label, Emits [⟨label, .tx, normalize norm data⟩]
      [normalize norm data] :=
    fun label => ⟨List.forall_mem_singleton.mpr text, rfl⟩
  exact ((emits_separator_if _).append (piece _)).append (emits_separator_if _)

theorem emitTX_pendingTX (b : Echo) (data : Bytes) (origin : TXOrigin) :
    (b.emitTX norm data origin).1.pendingTX = b.pendingTX ∧
      (b.emitTX norm data origin).1.quietTimer = b.quietTimer := by
  unfold Echo.emitTX
  split
  · exact ⟨rfl, rfl⟩
  · dsimp only
    split
    · exact ⟨rfl, rfl⟩
    · exact ⟨rfl, rfl⟩

theorem flushPendingTX_pendingTX (b : Echo) :
    (b.flushPendingTX norm).1.pendingTX = none := by
  unfold Echo.flushPendingTX
  cases waits : b.pendingTX with
  | none => exact waits
  | some tx => rfl

theorem emits_flushPendingTX
    (present : ∀ tx, b.pendingTX = some tx → tx.data ≠ []) :
    Emits (b.flushPendingTX norm).2 (b.waiting norm) := by
  unfold Echo.flushPendingTX Echo.waiting
  cases waits : b.pendingTX with
  | none => exact emits_nil
  | some tx => exact emits_emitTX (present tx waits) tx.origin

theorem emits_emitRX (atLineEnd : Bool) (lines : List Bytes) :
    Emits (Echo.emitRX norm atLineEnd lines).2 [] := by
  induction lines generalizing atLineEnd with
  | nil => exact emits_nil
  | cons line lines ih =>
      rw [Echo.emitRX]
      split
      · exact ih atLineEnd
      · rename_i present
        have piece : Emits [⟨if atLineEnd then some .rx else none, .rx, line⟩]
            [] := ⟨List.forall_mem_singleton.mpr present, rfl⟩
        exact piece.append (ih _)

/-- A text that waits does so for the end of a line of RX and for the timer. -/
def Waits (b : Echo) : Prop :=
  ∀ tx, b.pendingTX = some tx →
    tx.data ≠ [] ∧ b.rxAtLineEnd = false ∧ b.quietTimer = true

theorem waits_of_none (free : b.pendingTX = none) : Waits b := by
  intro tx waits
  rw [free] at waits
  cases waits

theorem Waits.present (waits : Waits b) (tx : TX) (there : b.pendingTX = some tx) :
    tx.data ≠ [] :=
  (waits tx there).1

theorem waiting_of_none (free : b.pendingTX = none) :
    b.waiting norm = [] := by
  unfold Echo.waiting
  rw [free]
  rfl

/-- What a handler that is run leaves of the text that waits -/
structure Runs (norm : NormalizationOptions) (b : Echo) (echoes : List Bytes)
    (result : Echo × List Piece) : Prop where
  waits : Waits result.1
  emits : ∃ texts, Emits result.2 texts ∧
    texts ++ result.1.waiting norm = b.waiting norm ++ echoes

theorem runs_same (waits : Waits b) : Runs norm b [] (b, []) :=
  ⟨waits, [], emits_nil, (List.append_nil _).symm⟩

theorem runs_of_flushed {result : Echo × List Piece}
    (free : result.1.pendingTX = none)
    (emits : Emits result.2 (b.waiting norm)) : Runs norm b [] result :=
  ⟨waits_of_none free, _, emits, by rw [waiting_of_none free]⟩

theorem runs_handleRX (waits : Waits b) (data : Bytes) :
    Runs norm b [] (b.handleRX norm data) ∧
      ((b.handleRX norm data).1.rxAtLineEnd = true →
        (b.handleRX norm data).1.pendingTX = none) := by
  unfold Echo.handleRX
  split
  · refine ⟨runs_same waits, fun atLineEnd => ?_⟩
    cases there : b.pendingTX with
    | none => rfl
    | some tx =>
        rw [(waits tx there).2.1] at atLineEnd
        cases atLineEnd
  · rename_i present
    dsimp only
    rw [if_neg (normalize_ne_nil present)]
    have separated := @emits_separator_if norm b.txLineActive
    have lines := separated.append (@emits_emitRX norm b.rxAtLineEnd
      (splitAfterAnyEOL norm.lineEnding (normalize norm data)))
    generalize Echo.emitRX norm b.rxAtLineEnd
      (splitAfterAnyEOL norm.lineEnding (normalize norm data)) = result at lines ⊢
    obtain ⟨atLineEnd, pieces⟩ := result
    split
    · have flushed := lines.append (@emits_flushPendingTX norm
        { b with rxAtLineEnd := atLineEnd, txLineActive := false }
        waits.present)
      have none := @flushPendingTX_pendingTX norm
        { b with rxAtLineEnd := atLineEnd, txLineActive := false }
      exact ⟨runs_of_flushed none flushed, fun _ => none⟩
    · rename_i stays
      dsimp only at stays ⊢
      have midLine : ∀ tx, b.pendingTX = some tx → atLineEnd = false := by
        intro tx there
        simpa [there] using stays
      refine ⟨⟨fun tx there => ?_, [], lines, ?_⟩, fun ended => ?_⟩
      · obtain ⟨present, -, timer⟩ := waits tx there
        exact ⟨present, midLine tx there, timer⟩
      · exact (List.append_nil _).symm
      · cases there : b.pendingTX with
        | none => rfl
        | some tx =>
            rw [midLine tx there] at ended
            cases ended

theorem runs_handleTX (waits : Waits b) (data : Bytes) (origin : TXOrigin)
    (free : data ≠ [] → b.pendingTX = none) :
    Runs norm b (Event.echo norm (.tx data origin))
      (b.handleTX norm data origin) := by
  unfold Echo.handleTX Event.echo
  dsimp only
  split
  · exact runs_same waits
  · rename_i present
    have none := free present
    split
    · obtain ⟨pendingTX, -⟩ := @emitTX_pendingTX norm b data origin
      have still := pendingTX.trans none
      refine ⟨waits_of_none still, _, emits_emitTX present origin, ?_⟩
      rw [waiting_of_none still, waiting_of_none none]
      rfl
    · rename_i waitsNow
      refine ⟨?_, [], emits_nil, ?_⟩
      · rintro tx ⟨⟩
        rw [none] at waitsNow
        exact ⟨present, by simpa using waitsNow, rfl⟩
      · rw [waiting_of_none none]
        rfl

theorem runs_quiet (waits : Waits b) :
    Runs norm b [] (b.quiet norm) ∧ (b.quiet norm).1.pendingTX = none := by
  unfold Echo.quiet
  dsimp only
  split
  · rename_i there
    refine ⟨⟨waits_of_none there, [], emits_nil, ?_⟩, there⟩
    exact (List.append_nil _).symm
  · have flushed := @emits_flushPendingTX norm
      { b with quietTimer := false } waits.present
    have none := @flushPendingTX_pendingTX norm { b with quietTimer := false }
    have separated : Emits [separator norm] [] :=
      ⟨List.forall_mem_singleton.mpr (lineSep_ne_nil _), rfl⟩
    exact ⟨runs_of_flushed none (separated.append flushed), none⟩

theorem runs_handle (waits : Waits b) {event : Event}
    (free : ∀ data origin, event = .tx data origin → data ≠ [] →
      b.pendingTX = none)
    {result : Echo × List Piece} (handled : b.handle norm event = some result) :
    Runs norm b (event.echo norm) result := by
  cases event with
  | rx data =>
      obtain rfl := Option.some.inj handled
      exact (runs_handleRX waits data).1
  | tx data origin =>
      obtain rfl := Option.some.inj handled
      exact runs_handleTX waits data origin (free data origin rfl)
  | quiet =>
      unfold Echo.handle at handled
      dsimp only at handled
      split at handled
      · obtain rfl := Option.some.inj handled
        exact (runs_quiet waits).1
      · cases handled

/-- A text that comes while another waits takes its place. -/
theorem handle_tx_of_waits {tx : TX} (waits : b.pendingTX = some tx)
    (present : data ≠ []) (origin : TXOrigin) :
    b.handle norm (.tx data origin) =
      some ({ b with pendingTX := some ⟨data, origin⟩, quietTimer := true },
        []) := by
  unfold Echo.handle Echo.handleTX
  dsimp only
  rw [if_neg present, if_neg (by simp [waits])]

end Handlers

/-! ### Whole runs -/

section Runs

variable {norm : NormalizationOptions} {b next : ConsoleBroker} {label : Label}

/-- Nothing is lost so far, and a terminal that goes on has an empty buffer. -/
structure Serves (norm : NormalizationOptions) (b : ConsoleBroker) : Prop where
  kept : echoTexts (b.sent ++ b.bufLines) ++ b.echo.waiting norm = b.echoes
  waits : Waits b.echo
  goesOn : b.terminalPaused = false → b.bufLines = []

theorem echo_foldl_emitToTerminal (pieces : List Piece) :
    (pieces.foldl ConsoleBroker.emitToTerminal b).echo = b.echo := by
  induction pieces generalizing b with
  | nil => rfl
  | cons piece pieces ih =>
      rw [List.foldl_cons, ih]
      unfold ConsoleBroker.emitToTerminal
      split
      · rfl
      · split <;> rfl

/-- What a handler leaves is where the broker goes on from. -/
theorem exists_handle_of_step {event : Event}
    (taken : step norm b (.event event) = some next) :
    ∃ result, b.echo.handle norm event = some result ∧
      next.echo = result.1 ∧
      next = result.2.foldl ConsoleBroker.emitToTerminal
        { b with echo := result.1, echoes := b.echoes ++ event.echo norm } := by
  obtain ⟨result, handled, same⟩ := Option.map_eq_some_iff.mp taken
  refine ⟨result, handled, ?_, same.symm⟩
  rw [← same]
  exact echo_foldl_emitToTerminal result.2

/-- Where the pieces of an event go -/
theorem foldl_emitToTerminal_spec {pieces : List Piece}
    (after : next = pieces.foldl ConsoleBroker.emitToTerminal b)
    (text : ∀ piece ∈ pieces, piece.text ≠ [])
    (goesOn : b.terminalPaused = false → b.bufLines = [])
    (within : b.terminalPaused = true →
      withinLimits (b.bufLines ++ pieces) = true) :
    next.echoes = b.echoes ∧
      next.sent ++ next.bufLines = b.sent ++ b.bufLines ++ pieces ∧
      (next.terminalPaused = false → next.bufLines = []) := by
  rcases Bool.eq_false_or_eq_true b.terminalPaused with paused | runs
  · rw [foldl_emitToTerminal_of_paused paused text (within paused)] at after
    obtain rfl := after
    refine ⟨rfl, (List.append_assoc ..).symm, fun runs => ?_⟩
    rw [paused] at runs
    cases runs
  · rw [foldl_emitToTerminal_of_running runs text] at after
    obtain rfl := after
    have empty := goesOn runs
    exact ⟨rfl, by simp [empty], fun _ => empty⟩

theorem Serves.pause (serves : Serves norm b) (paused : Bool) :
    Serves norm (b.pause paused) := by
  unfold ConsoleBroker.pause
  split
  · exact ⟨by rw [List.append_nil]; exact serves.kept, serves.waits,
      fun _ => rfl⟩
  · rename_i stays
    refine ⟨serves.kept, serves.waits, fun runs => serves.goesOn ?_⟩
    dsimp only at runs
    simpa [runs] using stays

theorem Serves.step (serves : Serves norm b)
    (below : BelowLimits norm b label) (free : NoneWaits b label)
    (taken : Console.step norm b label = some next) : Serves norm next := by
  cases label with
  | pause paused =>
      obtain rfl := Option.some.inj taken
      exact serves.pause paused
  | event event =>
      obtain ⟨result, handled, echo, after⟩ := exists_handle_of_step taken
      have runs : Runs norm b.echo (event.echo norm) result := by
        refine runs_handle serves.waits ?_ handled
        rintro data origin rfl
        exact free
      obtain ⟨texts, emits, same⟩ := runs.emits
      obtain ⟨echoes, emitted, goesOn⟩ := foldl_emitToTerminal_spec after
        emits.text serves.goesOn fun paused => below paused result handled
      refine ⟨?_, echo ▸ runs.waits, goesOn⟩
      rw [emitted, echoTexts_append, emits.echoes, echo, List.append_assoc,
        same, ← List.append_assoc, serves.kept, echoes]

/-- What may come next empties the place of the text that waits. -/
theorem Serves.lossless (serves : Serves norm b) : Lossless norm b where
  kept := serves.kept
  fires := by
    intro waits
    obtain ⟨tx, there⟩ := Option.ne_none_iff_exists'.mp waits
    exact (serves.waits tx there).2.2
  quiet := by
    intro next taken
    obtain ⟨result, handled, echo, -⟩ := exists_handle_of_step taken
    rw [echo]
    unfold Echo.handle at handled
    dsimp only at handled
    split at handled
    · obtain rfl := Option.some.inj handled
      exact (runs_quiet serves.waits).2
    · cases handled
  lineEnd := by
    intro data next taken
    obtain ⟨result, handled, echo, -⟩ := exists_handle_of_step taken
    obtain rfl := Option.some.inj handled
    rw [echo]
    exact (runs_handleRX serves.waits data).2
  goesOn := by
    intro next taken
    obtain rfl := Option.some.inj taken
    refine (serves.pause false).goesOn ?_
    unfold ConsoleBroker.pause
    split <;> rfl

/-- The place is taken, and what was there is emitted no more. -/
theorem noneWaits_of_lossless (serves : Serves norm b)
    (taken : Console.step norm b label = some next)
    (lossless : Lossless norm next) : NoneWaits b label := by
  rcases label with (_ | ⟨data, origin⟩ | _) | _
  · trivial
  · intro present
    by_contra waits
    obtain ⟨tx, there⟩ := Option.ne_none_iff_exists'.mp waits
    obtain ⟨result, handled, -, after⟩ := exists_handle_of_step taken
    rw [handle_tx_of_waits there present] at handled
    obtain rfl := Option.some.inj handled
    obtain rfl := after
    have before := congrArg List.length serves.kept
    have now := congrArg List.length lossless.kept
    simp [Echo.waiting, there, Event.echo, present] at before now
    omega
  · trivial
  · trivial

/-- The broker loses no echo along a run in which its buffer stays below its
limits, if and only if no TX event comes while the text of another waits. -/
theorem lossless_iff_noneWaits (norm : NormalizationOptions)
    (labels : List Label)
    (below : AllSteps (step norm) (BelowLimits norm) {} labels) :
    AllStates (step norm) (Lossless norm) {} labels ↔
      AllSteps (step norm) NoneWaits {} labels := by
  have start : Serves norm {} :=
    ⟨rfl, waits_of_none rfl, fun _ => rfl⟩
  exact @allStates_iff_allSteps_within ConsoleBroker Label (step norm)
    (Serves norm) (Lossless norm) NoneWaits (BelowLimits norm)
    (fun serves => serves.lossless)
    (fun serves below free taken => serves.step below free taken)
    (fun serves _ taken lossless => noneWaits_of_lossless serves taken lossless)
    {} labels start below

/-- A line is printed in two parts while two letters are typed, the second one
after the timer has fired. -/
theorem lossless_iff_noneWaits_twoLetters :
    AllStates (step {}) (Lossless {}) {}
      [.event (.rx (ascii "login")), .event (.tx (ascii "a") .user),
        .event .quiet, .event (.rx (ascii ": ")), .pause true,
        .event (.tx (ascii "b") .user), .pause false] :=
  (lossless_iff_noneWaits {} _ (by decide)).mpr (by decide)

/-- Two letters are typed after a prompt, and the first is never echoed. -/
theorem not_lossless_twoLetters :
    ¬ ∀ (norm : NormalizationOptions) (labels : List Label),
      AllSteps (step norm) (BelowLimits norm) {} labels →
      AllStates (step norm) (Lossless norm) {} labels := by
  intro claimed
  have lossless := (claimed {}
    [.event (.rx (ascii "login: ")), .event (.tx (ascii "a") .user),
      .event (.tx (ascii "b") .user)] (by decide)).last rfl
  have kept := lossless.kept
  revert kept
  decide

end Runs

end Console

end JetKvm
