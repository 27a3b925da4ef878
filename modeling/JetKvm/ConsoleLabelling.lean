import JetKvm.ConsoleLabels

/-!
# Runs that keep the labels

What a label in the middle of a line and a further line of a text do to the
terminal, and which runs therefore keep the labels of its lines.
-/

namespace JetKvm

namespace Console

open CutLines LabelledRuns

/-! ### What breaks the labels -/

section Breaks

variable {norm : NormalizationOptions} {b : Echo}
variable {begun line : List MarkedByte} {source : Source} {text : Bytes}

/-- All lines that are written are good. -/
def AllGood (norm : NormalizationOptions) (begun text : List MarkedByte) :
    Prop :=
  ∀ line ∈ (cut (lineEnds norm) begun text).lines, Good norm line

theorem AllGood.of_append {first second middle : List MarkedByte}
    (good : AllGood norm begun (first ++ second))
    (after : (cut (lineEnds norm) begun first).begun = middle) :
    AllGood norm middle second := by
  unfold AllGood at good ⊢
  rw [cut_append, after] at good
  intro line member
  refine good line ?_
  unfold Cut.lines at member ⊢
  dsimp only
  rw [List.append_assoc]
  exact List.mem_append_right _ member

theorem exists_mem_marked (label : LineLabel) :
    ∃ byte ∈ label.marked, byte.2 = Mark.label := by
  cases label <;> exact ⟨_, List.mem_cons_self .., rfl⟩

theorem exists_label_of_hasLabel (labelled : HasLabel line) :
    ∃ byte ∈ line, byte.2 = .label := by
  obtain ⟨label, body, rfl, -⟩ := labelled
  obtain ⟨byte, member, mark⟩ := exists_mem_marked label
  exact ⟨byte, List.mem_append_left _ member, mark⟩

theorem ne_label_of_text {byte : MarkedByte}
    (mark : byte.2 = .text source ∨ byte.2 = .text .separator) :
    byte.2 ≠ .label := by
  rcases mark with text | separator
  · rw [text]
    exact nofun
  · rw [separator]
    exact nofun

theorem dropWhile_marked (label : LineLabel) {body : List MarkedByte}
    (noLabel : ∀ byte ∈ body.head?, byte.2 ≠ .label) :
    (label.marked ++ body).dropWhile (fun byte => byte.2 = .label) = body := by
  have all : ∀ byte ∈ label.marked, decide (byte.2 = Mark.label) = true := by
    intro byte member
    obtain ⟨_, -, rfl⟩ := List.mem_map.mp member
    rfl
  rw [List.dropWhile_append_of_pos all]
  cases body with
  | nil => rfl
  | cons byte body =>
      exact List.dropWhile_cons_of_neg (by simpa using noLabel byte rfl)

/-- A label in the middle of a line that has one spoils it. -/
theorem not_good_of_label (written : Written source begun) (label : LineLabel)
    (within : begun ++ label.marked <+: line) : ¬ Good norm line := by
  obtain ⟨first, body, rfl, -, present, marks⟩ := written
  obtain ⟨rest, rfl⟩ := within
  obtain ⟨byte, member, mark⟩ := exists_mem_marked label
  rintro (blank | ⟨other, tail, same, tailMarks⟩)
  · have within : byte.1 ∈
        bytesOf (first.marked ++ body ++ label.marked ++ rest) :=
      List.mem_map_of_mem (List.mem_append_left _
        (List.mem_append_right _ member))
    rcases blank with empty | isEOL
    · rw [empty] at within
      cases within
    · exact not_plain_of_mem_eols isEOL within (plain_marked label byte member)
  · have drops := congrArg
      (List.dropWhile fun byte => decide (byte.2 = Mark.label)) same
    rw [List.append_assoc, List.append_assoc, dropWhile_marked,
      dropWhile_marked] at drops
    · have inTail : byte ∈ tail := by
        rw [← drops]
        exact List.mem_append_right _ (List.mem_append_left _ member)
      exact ne_label_of_text (tailMarks byte inTail) mark
    · exact fun head there =>
        ne_label_of_text (tailMarks head (List.mem_of_head? there))
    · intro head there
      rw [List.head?_append_of_ne_nil _ present] at there
      exact ne_label_of_text (.inl (marks head (List.mem_of_head? there)))

/-- A labelled piece spoils the line that was begun. -/
theorem not_allGood_of_labelled (written : Written source begun)
    {label : LineLabel} {side : Source} {more : List MarkedByte} :
    ¬ AllGood norm begun (Piece.marked ⟨some label, side, text⟩ ++ more) := by
  intro good
  have split : Piece.marked ⟨some label, side, text⟩ ++ more =
      label.marked ++ (markText side text ++ more) := List.append_assoc ..
  rw [split] at good
  have whole := @cut_of_plain norm begun _ (plain_marked label)
  have rest := good.of_append (congrArg Cut.begun whole)
  obtain ⟨tail, others, same, -⟩ := @exists_lines_eq_cons MarkedByte
    (lineEnds norm) (begun ++ label.marked) (markText side text ++ more)
  unfold AllGood at rest
  rw [same] at rest
  exact not_good_of_label written label (List.prefix_append _ tail)
    (rest _ (List.mem_cons_self ..))

theorem blank_of_marks (good : Good norm line)
    (marks : ∀ byte ∈ line, byte.2 ≠ .label) : Blank norm line := by
  refine good.resolve_right fun labelled => ?_
  obtain ⟨byte, member, mark⟩ := exists_label_of_hasLabel labelled
  exact marks byte member mark

/-- A line that has begun is not blank when a separator ends it. -/
theorem not_mem_eols_of_goes {mode : LineEndingMode} {front : Bytes}
    (present : front ≠ []) (goes : endsWithEOL mode front = false) :
    front ++ lineSep mode ∉ eols mode := by
  intro member
  have short := (length_le_two member).2
  have long := List.length_pos_iff.mpr present
  rw [List.length_append] at short
  cases mode with
  | crlf =>
      have two : (lineSep .crlf).length = 2 := rfl
      omega
  | lfcr =>
      have two : (lineSep .lfcr).length = 2 := rfl
      omega
  | lf => simp [lineSep, eols, present] at member
  | cr => simp [lineSep, eols, present] at member
  | asIs =>
      rcases front with _ | ⟨c, _ | ⟨second, rest⟩⟩
      · exact present rfl
      · have first : c = cr := by
          simpa [lineSep, eols, show lf ≠ cr by decide] using member
        rw [first] at goes
        revert goes
        decide
      · simp [lineSep] at short

/-- A separator makes a line of what is there without a label. -/
theorem blank_of_separator (unfinished : Unfinished (lineEnds norm) begun)
    (marks : ∀ byte ∈ begun, byte.2 ≠ .label)
    (good : AllGood norm begun (separator norm).marked) :
    bytesOf begun = [] := by
  by_contra present
  have goes := unfinished.ends_eq_false (mt (congrArg bytesOf) present)
  unfold AllGood at good
  rw [cut_separator] at good
  have closed := good (begun ++ (separator norm).marked) (List.mem_cons_self ..)
  have blank := blank_of_marks closed (List.forall_mem_append.mpr
    ⟨marks, fun byte member => by
      rw [mark_of_mem_markText member]
      exact nofun⟩)
  unfold Blank at blank
  rw [bytesOf_append, bytesOf_separator] at blank
  rcases blank with empty | isEOL
  · exact present (List.append_eq_nil_iff.mp empty).1
  · exact not_mem_eols_of_goes present goes isEOL

/-- What is written behind the text does not hide a further line of it. -/
inductive Closing (norm : NormalizationOptions) (text : Bytes) :
    List Piece → Prop
  | ends (ends : endsWithEOL norm.lineEnding text = true) (more : List Piece) :
      Closing norm text more
  | nothing : Closing norm text []
  | separator : Closing norm text [separator norm]

/-- A further line of a text has no label. -/
theorem oneLine_of_allGood (unfinished : Unfinished (lineEnds norm) begun)
    {more : List Piece} (closing : Closing norm text more)
    (good : AllGood norm begun (markText source text ++ marked more)) :
    OneLine norm.lineEnding (bytesOf begun ++ text) := by
  have bytes := map_cut_markText unfinished source text
  have goesOn := (unfinished.cut_spec (markText source text)).2
  obtain ⟨front, others, same, split⟩ :=
    @exists_lines_eq_cons _ (lineEnds norm) begun (markText source text)
  have marks : ∀ line ∈ others, ∀ byte ∈ line, byte.2 ≠ .label := by
    intro line member byte inLine
    have inText : byte ∈ markText source text := by
      rw [← split]
      exact List.mem_append_right _
        (List.mem_flatten.mpr ⟨line, member, inLine⟩)
    rw [mark_of_mem_markText inText]
    exact nofun
  have last : (cut (lineEnds norm) begun (markText source text)).begun ∈ others →
      bytesOf (cut (lineEnds norm) begun (markText source text)).begun = [] ∨
        bytesOf (cut (lineEnds norm) begun (markText source text)).begun ∈
          eols norm.lineEnding := by
    intro member
    have later := good.of_append rfl
    cases closing with
    | ends ends =>
        have ended := begun_eq_nil_of_ends
          (endsWithEOL_append_of_ends (bytesOf begun) ends)
        rw [← bytes] at ended
        exact .inl ended
    | nothing =>
        exact blank_of_marks (later _ (List.mem_singleton_self _))
          (marks _ member)
    | separator =>
        rw [marked_singleton] at later
        exact .inl (blank_of_separator goesOn (marks _ member) later)
  unfold AllGood at good
  rw [cut_append] at good
  unfold OneLine
  rw [← bytes, Cut.lines_map, same, List.map_cons, List.tail_cons]
  refine List.forall_mem_map.mpr fun line member => ?_
  generalize cut (lineEnds norm) begun (markText source text) = lines at *
  obtain ⟨finished, rest⟩ := lines
  cases finished with
  | nil =>
      obtain ⟨-, rfl⟩ := List.cons.inj same
      cases member
  | cons first finished =>
      obtain ⟨-, rfl⟩ := List.cons.inj same
      rcases List.mem_append.mp member with ended | isLast
      · exact blank_of_marks (good line (List.mem_append_left _
          (List.mem_append_left _ (List.mem_cons_of_mem _ ended))))
          (marks line member)
      · obtain rfl := List.mem_singleton.mp isLast
        exact last member

end Breaks

/-! ### One event -/

section Steps

variable {norm : NormalizationOptions} {b : Echo} {begun : List MarkedByte}
variable {data : Bytes}

theorem oneLine_of_labelled {label : LineLabel} {source : Source}
    {more : List Piece} (closing : Closing norm data more)
    (good : AllGood norm []
      (Piece.marked ⟨some label, source, data⟩ ++ marked more)) :
    OneLine norm.lineEnding data := by
  have whole := @cut_of_plain norm [] _ (plain_marked label)
  have rest : AllGood norm label.marked (markText source data ++ marked more) := by
    refine AllGood.of_append ?_ (congrArg Cut.begun whole)
    rw [← List.append_assoc]
    exact good
  have one := oneLine_of_allGood whole closing rest
  rw [bytesOf_marked, oneLine_append_of_plain (plain_label label)] at one
  exact one

/-- What is behind the text that is emitted for a TX event -/
theorem closing_of_system (origin : TXOrigin) :
    Closing norm data (if origin = .system && !endsWithEOL norm.lineEnding data
      then [separator norm] else []) := by
  split
  · exact .separator
  · exact .nothing

theorem marked_emitTX (present : data ≠ []) (origin : TXOrigin) :
    marked (b.emitTX norm data origin).2 =
      marked (if !b.rxAtLineEnd && !b.txLineActive then [separator norm]
        else []) ++
      (Piece.marked ⟨if b.txLineActive then none else some origin.label, .tx,
          normalize norm data⟩ ++
        marked (if origin = .system &&
            !endsWithEOL norm.lineEnding (normalize norm data)
          then [separator norm] else [])) := by
  rw [emitTX_eq present origin]
  dsimp only
  rw [marked_append, marked_append, marked_singleton, List.append_assoc]

/-- A text that is flushed at the beginning of a line is one line. -/
theorem oneLine_of_flushPendingTX {tx : TX} (waits : b.pendingTX = some tx)
    (present : tx.data ≠ []) (notActive : b.txLineActive = false)
    (good : AllGood norm [] (marked (b.flushPendingTX norm).2)) :
    OneLine norm.lineEnding (normalize norm tx.data) := by
  rw [flushPendingTX_eq waits] at good
  dsimp only at good
  rw [marked_emitTX present, notActive] at good
  have begins : AllGood norm []
      (Piece.marked ⟨some tx.origin.label, .tx, normalize norm tx.data⟩ ++
        marked (if tx.origin = .system &&
            !endsWithEOL norm.lineEnding (normalize norm tx.data)
          then [separator norm] else [])) := by
    refine good.of_append ?_
    split
    · rw [marked_singleton, cut_separator]
    · rfl
  exact oneLine_of_labelled (closing_of_system tx.origin) begins

/-- The first part is emitted with a label if RX is at the end of a line. -/
theorem exists_emitRX_eq (atLineEnd : Bool) (present : data ≠ []) :
    ∃ more, Closing norm (firstPart norm data) more ∧
      (Echo.emitRX norm atLineEnd (splitAfterAnyEOL norm.lineEnding data)).2 =
        ⟨if atLineEnd then some .rx else none, .rx, firstPart norm data⟩ ::
          more ∧
      ((Echo.emitRX norm atLineEnd
          (splitAfterAnyEOL norm.lineEnding data)).1 = true →
        endsWithEOL norm.lineEnding (firstPart norm data) = true) := by
  have whole := flatten_splitAfterAnyEOL norm.lineEnding data
  have splits := splits_splitAfterAnyEOL norm.lineEnding data
  unfold firstPart
  generalize splitAfterAnyEOL norm.lineEnding data = parts at whole splits ⊢
  subst data
  cases parts with
  | nil => exact absurd rfl present
  | cons part parts =>
      have here := splits.head_ne_nil present
      obtain ⟨-, ends | last, -⟩ := splits
      · rw [Echo.emitRX, if_neg here, List.headD_cons]
        exact ⟨_, .ends ends _, rfl, fun _ => ends⟩
      · rw [Echo.emitRX, if_neg here, emitRX_of_flatten_eq_nil _ last,
          List.headD_cons]
        exact ⟨[], .nothing, rfl, id⟩

/-- What is emitted for RX data begins with its first part. -/
theorem exists_handleRX_eq (notActive : b.txLineActive = false)
    (present : data ≠ []) :
    ∃ more, Closing norm (firstPart norm (normalize norm data)) more ∧
      marked (b.handleRX norm data).2 =
        Piece.marked ⟨if b.rxAtLineEnd then some .rx else none, .rx,
          firstPart norm (normalize norm data)⟩ ++ marked more := by
  obtain ⟨more, closing, pieces, ends⟩ := @exists_emitRX_eq norm _ b.rxAtLineEnd
    (@normalize_ne_nil norm data present)
  have lines : rxLines norm b data =
      ((Echo.emitRX norm b.rxAtLineEnd (splitAfterAnyEOL norm.lineEnding
          (normalize norm data))).1,
        ⟨if b.rxAtLineEnd then some .rx else none, .rx,
          firstPart norm (normalize norm data)⟩ :: more) := by
    unfold rxLines
    dsimp only
    rw [notActive, pieces]
    rfl
  rw [handleRX_eq present, lines]
  dsimp only
  split
  · rename_i flushes
    rw [Bool.and_eq_true] at flushes
    exact ⟨more ++ _, .ends (ends flushes.2) _, marked_cons _ (more ++ _)⟩
  · exact ⟨more, closing, marked_cons _ _⟩

/-- RX data is emitted in step with good lines. -/
theorem keeps_of_handleRX (noANSI : norm.preserveANSI = false)
    (unfinished : Unfinished (lineEnds norm) begun)
    (tracks : Tracks norm b begun) (waits : Waits b) (present : data ≠ [])
    (good : AllGood norm begun (marked (b.handleRX norm data).2)) :
    (b.rxAtLineEnd = true → b.txLineActive = false → begun = []) ∧
      (b.rxAtLineEnd = false → OneLine norm.lineEnding
        (bytesOf begun ++ firstPart norm (normalize norm data))) ∧
      ∀ tx ∈ b.pendingTX,
        endsWithEOL norm.lineEnding (normalize norm data) = true →
          OneLine norm.lineEnding (normalize norm tx.data) := by
  have inStep : b.rxAtLineEnd = true → b.txLineActive = false → begun = [] := by
    intro atEnd notActive
    refine (tracks.start atEnd notActive).resolve_right fun written => ?_
    obtain ⟨more, -, same⟩ := exists_handleRX_eq notActive present
    rw [same, atEnd] at good
    exact not_allGood_of_labelled written good
  have first : b.rxAtLineEnd = false → OneLine norm.lineEnding
      (bytesOf begun ++ firstPart norm (normalize norm data)) := by
    intro midLine
    obtain ⟨more, closing, same⟩ :=
      exists_handleRX_eq (tracks.rx midLine).1 present
    rw [same, midLine] at good
    exact oneLine_of_allGood unfinished closing good
  refine ⟨inStep, first, fun tx there ends => ?_⟩
  obtain ⟨after, lines, leaves⟩ :=
    exists_writes_rxLines noANSI unfinished tracks inStep present first
  have atEnd := leaves.ends.trans ends
  rw [handleRX_eq present] at good
  dsimp only at good
  rw [if_pos (by rw [show b.pendingTX = some tx from there, atEnd]; rfl)] at good
  dsimp only at good
  rw [marked_append] at good
  have flushed := good.of_append (lines.after.trans (leaves.start atEnd))
  exact oneLine_of_flushPendingTX
    (b := { b with txLineActive := false, rxAtLineEnd := (rxLines norm b data).1 })
    there (waits tx there).1 rfl flushed

/-- A text that is emitted at once is emitted in step with good lines. -/
theorem keeps_of_emitTX (unfinished : Unfinished (lineEnds norm) begun)
    (tracks : Tracks norm b begun) (present : data ≠ []) (origin : TXOrigin)
    (atEnd : b.rxAtLineEnd = true)
    (good : AllGood norm begun (marked (b.emitTX norm data origin).2)) :
    (b.rxAtLineEnd = true → b.txLineActive = false → begun = []) ∧
      OneLine norm.lineEnding (bytesOf begun ++ normalize norm data) := by
  rw [marked_emitTX present, atEnd] at good
  cases active : b.txLineActive with
  | true =>
      rw [active] at good
      exact ⟨fun _ => nofun,
        oneLine_of_allGood unfinished (closing_of_system origin) good⟩
  | false =>
      rw [active] at good
      rcases tracks.start atEnd active with rfl | written
      · exact ⟨fun _ _ => rfl,
          oneLine_of_labelled (closing_of_system origin) good⟩
      · exact absurd good (not_allGood_of_labelled written)

theorem quiet_pieces_of_waits {tx : TX} (waits : b.pendingTX = some tx) :
    (b.quiet norm).2 = separator norm ::
      (Echo.flushPendingTX norm { b with quietTimer := false }).2 := by
  unfold Echo.quiet
  dsimp only
  split
  · rename_i none
    rw [waits] at none
    cases none
  · rfl

/-- A text that waits for the timer is emitted with good lines. -/
theorem keeps_of_quiet (tracks : Tracks norm b begun) (waits : Waits b)
    (good : AllGood norm begun (marked (b.quiet norm).2)) :
    ∀ tx ∈ b.pendingTX, OneLine norm.lineEnding (normalize norm tx.data) := by
  intro tx there
  rw [quiet_pieces_of_waits there, marked_cons] at good
  have flushed := good.of_append (congrArg Cut.begun (cut_separator norm begun))
  exact @oneLine_of_flushPendingTX norm { b with quietTimer := false } tx there
    (waits tx there).1 (tracks.rx (waits.midLine there)).1 flushed

end Steps

/-! ### Whole runs -/

section Runs

variable {norm : NormalizationOptions} {b next : ConsoleBroker} {event : Event}

/-- The finished lines are good, and the flags tell where the last one is. -/
structure Follows (norm : NormalizationOptions) (b : ConsoleBroker) : Prop where
  running : b.terminalPaused = false
  good : ∀ line ∈ (terminal norm b.sent).finished, Good norm line
  tracks : Tracks norm b.echo (terminal norm b.sent).begun
  waits : Waits b.echo

theorem Follows.labelled (follows : Follows norm b) : Labelled norm b := by
  refine List.forall_mem_append.mpr ⟨follows.good, ?_⟩
  refine List.forall_mem_singleton.mpr ?_
  cases atEnd : b.echo.rxAtLineEnd with
  | false => exact (follows.tracks.rx atEnd).2.1.good
  | true =>
      cases active : b.echo.txLineActive with
      | true => exact (follows.tracks.tx atEnd active).1.good
      | false =>
          rcases follows.tracks.start atEnd active with empty | written
          · rw [empty]
            exact .inl (.inl rfl)
          · exact written.good

theorem unfinished_begun (norm : NormalizationOptions) (pieces : List Piece) :
    Unfinished (lineEnds norm) (terminal norm pieces).begun :=
  (Unfinished.cut_spec unfinished_nil (marked pieces)).2

/-- An event has a text in each piece that is emitted, and what waits does so
as before. -/
theorem text_of_handle {b : Echo} (waits : Waits b) {result : Echo × List Piece}
    (handled : b.handle norm event = some result) :
    (∀ piece ∈ result.2, piece.text ≠ []) ∧ Waits result.1 := by
  have free : (∀ data origin, event = .tx data origin → data ≠ [] →
      b.pendingTX = none) →
      (∀ piece ∈ result.2, piece.text ≠ []) ∧ Waits result.1 := by
    intro free
    have runs := runs_handle waits free handled
    obtain ⟨_, emits, -⟩ := runs.emits
    exact ⟨emits.text, runs.waits⟩
  cases there : b.pendingTX with
  | none => exact free fun _ _ _ _ => there
  | some tx =>
      obtain ⟨-, midLine, -⟩ := waits tx there
      cases event with
      | rx data => exact free nofun
      | quiet => exact free nofun
      | tx data origin =>
          rcases eq_or_ne data [] with rfl | present
          · exact free fun _ _ same present => by
              obtain ⟨rfl, -⟩ := Event.tx.inj same
              exact absurd rfl present
          · rw [handle_tx_of_waits there present] at handled
            obtain rfl := Option.some.inj handled
            refine ⟨List.forall_mem_nil _, fun other same => ?_⟩
            obtain rfl := Option.some.inj same
            exact ⟨present, midLine, rfl⟩

/-- A terminal that goes on is sent what the handler emits. -/
theorem Follows.exists_handle (follows : Follows norm b)
    (taken : stepEvent norm b event = some next) :
    ∃ result, b.echo.handle norm event = some result ∧
      next.echo = result.1 ∧ next.sent = b.sent ++ result.2 ∧
      next.terminalPaused = false ∧ Waits result.1 := by
  obtain ⟨result, handled, echo, after⟩ :=
    @exists_handle_of_step norm b next event taken
  obtain ⟨text, waits⟩ := text_of_handle follows.waits handled
  obtain rfl :=
    after.trans (foldl_emitToTerminal_of_running follows.running text)
  exact ⟨result, handled, rfl, rfl, follows.running, waits⟩

/-- An event that keeps the labels writes good lines. -/
theorem exists_tracks_handle (noANSI : norm.preserveANSI = false)
    (follows : Follows norm b) (keeps : Keeps norm b event)
    {result : Echo × List Piece}
    (handled : b.echo.handle norm event = some result) :
    ∃ after,
      Writes norm (terminal norm b.sent).begun (marked result.2) after ∧
      Tracks norm result.1 after := by
  have unfinished := unfinished_begun norm b.sent
  cases event with
  | rx data =>
      obtain rfl := Option.some.inj handled
      rcases eq_or_ne data [] with rfl | present
      · exact ⟨_, writes_nil _, follows.tracks⟩
      · obtain ⟨inStep, first, one⟩ := keeps present
        exact exists_tracks_handleRX noANSI unfinished follows.tracks
          follows.waits present inStep first one
  | tx data origin =>
      obtain rfl := Option.some.inj handled
      rcases eq_or_ne data [] with rfl | present
      · exact ⟨_, writes_nil _, follows.tracks⟩
      · exact exists_tracks_handleTX noANSI unfinished follows.tracks present
          origin (keeps present)
  | quiet =>
      unfold Echo.handle at handled
      dsimp only at handled
      split at handled
      · obtain rfl := Option.some.inj handled
        exact exists_tracks_quiet noANSI follows.tracks follows.waits keeps
      · cases handled

theorem Follows.step (follows : Follows norm b)
    (noANSI : norm.preserveANSI = false) (keeps : Keeps norm b event)
    (taken : stepEvent norm b event = some next) : Follows norm next := by
  obtain ⟨result, handled, echo, sent, running, waits⟩ :=
    follows.exists_handle taken
  obtain ⟨after, writes, tracks⟩ :=
    exists_tracks_handle noANSI follows keeps handled
  have lines : terminal norm next.sent =
      ⟨(terminal norm b.sent).finished ++
          (cut (lineEnds norm) (terminal norm b.sent).begun
            (marked result.2)).finished, after⟩ := by
    unfold terminal
    rw [sent, marked_append, cut_append, ← writes.after]
    rfl
  refine ⟨running, ?_, ?_, echo ▸ waits⟩
  · rw [lines]
    exact List.forall_mem_append.mpr ⟨follows.good, writes.good⟩
  · rw [lines, echo]
    exact tracks

/-- Labels that are kept show that the event keeps them. -/
theorem keeps_of_labelled (follows : Follows norm b)
    (noANSI : norm.preserveANSI = false)
    (taken : stepEvent norm b event = some next)
    (labelled : Labelled norm next) : Keeps norm b event := by
  have unfinished := unfinished_begun norm b.sent
  obtain ⟨result, handled, -, sent, -⟩ := follows.exists_handle taken
  have good : AllGood norm (terminal norm b.sent).begun (marked result.2) := by
    unfold Labelled terminal at labelled
    rw [sent, marked_append] at labelled
    exact AllGood.of_append labelled rfl
  cases event with
  | rx data =>
      intro present
      obtain rfl := Option.some.inj handled
      exact keeps_of_handleRX noANSI unfinished follows.tracks follows.waits
        present good
  | tx data origin =>
      intro present atEnd none
      obtain rfl := Option.some.inj handled
      unfold Echo.handleTX at good
      rw [if_neg present, if_pos (by rw [atEnd, none]; rfl)] at good
      exact keeps_of_emitTX unfinished follows.tracks present origin atEnd good
  | quiet =>
      unfold Echo.handle at handled
      dsimp only at handled
      split at handled
      · obtain rfl := Option.some.inj handled
        exact keeps_of_quiet follows.tracks follows.waits good
      · cases handled

/-- The lines of the terminal keep their labels along a run if and only if every
event keeps them. -/
theorem labelled_iff_keeps (norm : NormalizationOptions)
    (noANSI : norm.preserveANSI = false) (events : List Event) :
    AllStates (stepEvent norm) (Labelled norm) {} events ↔
      AllSteps (stepEvent norm) (Keeps norm) {} events := by
  have start : Follows norm {} :=
    ⟨rfl, List.forall_mem_nil _, ⟨nofun, fun _ => nofun, fun _ _ => .inl rfl⟩,
      waits_of_none rfl⟩
  exact @allStates_iff_allSteps ConsoleBroker Event (stepEvent norm)
    (Follows norm) (Labelled norm) (Keeps norm)
    (fun follows => follows.labelled)
    (fun follows keeps taken => follows.step noANSI keeps taken)
    (fun follows taken labelled => keeps_of_labelled follows noANSI taken labelled)
    {} start events

/-- A letter is typed while a prompt waits, and the timer ends the prompt. -/
theorem labelled_iff_keeps_prompt :
    AllStates (stepEvent {}) (Labelled {}) {}
      [.rx (ascii "login: "), .tx (ascii "a\n") .user, .quiet,
        .rx (ascii "Password: "), .tx (ascii "reboot") .system, .quiet] :=
  (labelled_iff_keeps {} rfl _).mpr (by decide)

/-- A text of two lines is typed, and the second line has no label. -/
theorem not_labelled_twoLines :
    ¬ ∀ (norm : NormalizationOptions) (events : List Event),
      norm.preserveANSI = false →
      AllStates (stepEvent norm) (Labelled norm) {} events := by
  intro claimed
  have labelled := (claimed {} [.tx (ascii "ls\nw") .user] rfl).last rfl
  have second := labelled ((ascii "w").map fun byte => (byte, .text .tx))
    (by decide)
  rcases second with blank | hasLabel
  · unfold Blank at blank
    revert blank
    decide
  · obtain ⟨byte, member, mark⟩ := exists_label_of_hasLabel hasLabel
    rw [mark_of_mem_markText member] at mark
    cases mark

end Runs

end Console

end JetKvm
