import JetKvm.ConsoleEcho
import JetKvm.ConsoleLines

/-!
# The labels of console lines

Whether every line of the terminal begins with one label and has text of one
side only.  The flags of the broker should tell where the cursor is.
-/

namespace JetKvm

namespace Console

open CutLines LabelledRuns

/-! ### Lines of the terminal -/

/-- Where a byte of the terminal comes from. -/
inductive Mark where
  | label
  | text (source : Source)
  deriving DecidableEq, Repr

abbrev MarkedByte := UInt8 × Mark

def LineLabel.marked (label : LineLabel) : List MarkedByte :=
  label.text.map fun byte => (byte, .label)

def markText (source : Source) (text : Bytes) : List MarkedByte :=
  text.map fun byte => (byte, .text source)

def Piece.marked (piece : Piece) : List MarkedByte :=
  (piece.label.map LineLabel.marked).getD [] ++
    markText piece.source piece.text

def marked (pieces : List Piece) : List MarkedByte :=
  pieces.flatMap Piece.marked

def bytesOf (line : List MarkedByte) : Bytes := line.map Prod.fst

def LineLabel.source : LineLabel → Source
  | .rx => .rx
  | .tx => .tx
  | .system => .tx

/-- The line begins with a label, and has no other and only text of that side
but for the separators. -/
def HasLabel (line : List MarkedByte) : Prop :=
  ∃ (label : LineLabel) (body : List MarkedByte), line = label.marked ++ body ∧
    ∀ byte ∈ body, byte.2 = .text label.source ∨ byte.2 = .text .separator

section Lines

variable (norm : NormalizationOptions)

/-- The two bytes of a pair that ends a line as it is end one each: the line
between them is empty. -/
def lineEnds (line : List MarkedByte) : Bool :=
  endsWithEOL norm.lineEnding (bytesOf line)

/-- There is nothing in the line but its end. -/
def Blank (line : List MarkedByte) : Prop :=
  bytesOf line = [] ∨ bytesOf line ∈ eols norm.lineEnding

def Good (line : List MarkedByte) : Prop := Blank norm line ∨ HasLabel line

/-- The lines that the pieces make up. -/
def terminal (pieces : List Piece) : Cut MarkedByte :=
  cut (lineEnds norm) [] (marked pieces)

/-- Every line that is sent to the terminal keeps its label. -/
def Labelled (b : ConsoleBroker) : Prop :=
  ∀ line ∈ (terminal norm b.sent).lines, Good norm line

/-! ### When the labels are kept -/

/-- Where the flags tell that a line begins, one does. -/
def InStep (b : ConsoleBroker) : Prop :=
  b.echo.rxAtLineEnd = true → b.echo.txLineActive = false →
    (terminal norm b.sent).begun = []

/-- The text and what the last line has before it are one line. -/
def Joins (b : ConsoleBroker) (text : Bytes) : Prop :=
  OneLine norm.lineEnding (bytesOf (terminal norm b.sent).begun ++ text)

def firstPart (text : Bytes) : Bytes :=
  (splitAfterAnyEOL norm.lineEnding text).headD []

/-- No event is emitted out of step, and what is emitted in one piece is one
line with what is there of it. -/
def Keeps (b : ConsoleBroker) : Event → Prop
  | .rx data => data ≠ [] → InStep norm b ∧
      (b.echo.rxAtLineEnd = false →
        Joins norm b (firstPart norm (normalize norm data))) ∧
      ∀ tx ∈ b.echo.pendingTX,
        endsWithEOL norm.lineEnding (normalize norm data) = true →
          OneLine norm.lineEnding (normalize norm tx.data)
  | .tx data _ => data ≠ [] → b.echo.rxAtLineEnd = true →
      b.echo.pendingTX = none →
        InStep norm b ∧ Joins norm b (normalize norm data)
  | .quiet => ∀ tx ∈ b.echo.pendingTX,
      OneLine norm.lineEnding (normalize norm tx.data)

instance (b : ConsoleBroker) : Decidable (InStep norm b) :=
  inferInstanceAs (Decidable (_ → _ → _))

instance (b : ConsoleBroker) (text : Bytes) : Decidable (Joins norm b text) :=
  inferInstanceAs (Decidable (OneLine _ _))

instance (b : ConsoleBroker) (event : Event) : Decidable (Keeps norm b event) := by
  cases event <;> unfold Keeps <;> infer_instance

end Lines

/-! ### Marks -/

section Marks

variable {norm : NormalizationOptions}

theorem bytesOf_append (first second : List MarkedByte) :
    bytesOf (first ++ second) = bytesOf first ++ bytesOf second :=
  List.map_append

theorem bytesOf_markText (source : Source) (text : Bytes) :
    bytesOf (markText source text) = text := by
  unfold bytesOf markText
  rw [List.map_map]
  exact List.map_id text

theorem bytesOf_marked (label : LineLabel) :
    bytesOf label.marked = label.text := by
  unfold bytesOf LineLabel.marked
  rw [List.map_map]
  exact List.map_id label.text

theorem mark_of_mem_markText {source : Source} {text : Bytes}
    {byte : MarkedByte} (member : byte ∈ markText source text) :
    byte.2 = .text source := by
  obtain ⟨_, -, rfl⟩ := List.mem_map.mp member
  rfl

theorem marked_append (first second : List Piece) :
    marked (first ++ second) = marked first ++ marked second :=
  List.flatMap_append

theorem plain_label (label : LineLabel) : ∀ x ∈ label.text, Plain x := by
  cases label <;> exact plain_of_all (by decide)

end Marks

/-! ### Writing onto a line -/

/-- A line with the label of a side and text of that side after it -/
def Front (source : Source) (line : List MarkedByte) : Prop :=
  ∃ (label : LineLabel) (body : List MarkedByte), line = label.marked ++ body ∧
    label.source = source ∧ ∀ byte ∈ body, byte.2 = .text source

/-- There is text after the label. -/
def Written (source : Source) (line : List MarkedByte) : Prop :=
  ∃ (label : LineLabel) (body : List MarkedByte), line = label.marked ++ body ∧
    label.source = source ∧ body ≠ [] ∧ ∀ byte ∈ body, byte.2 = .text source

/-- What is written finishes good lines only and leaves the line that it
begins. -/
structure Writes (norm : NormalizationOptions)
    (begun text after : List MarkedByte) : Prop where
  good : ∀ line ∈ (cut (lineEnds norm) begun text).finished, Good norm line
  after : (cut (lineEnds norm) begun text).begun = after

section Writes

variable {norm : NormalizationOptions} {source : Source}
variable {begun line : List MarkedByte} {text : Bytes}

theorem Written.front (written : Written source line) : Front source line := by
  obtain ⟨label, body, same, side, -, marks⟩ := written
  exact ⟨label, body, same, side, marks⟩

theorem front_label (label : LineLabel) : Front label.source label.marked :=
  ⟨label, [], (List.append_nil _).symm, rfl, List.forall_mem_nil _⟩

theorem Front.written (front : Front source line) (present : text ≠ []) :
    Written source (line ++ markText source text) := by
  obtain ⟨label, body, rfl, side, marks⟩ := front
  refine ⟨label, body ++ markText source text, List.append_assoc .., side, ?_,
    List.forall_mem_append.mpr
      ⟨marks, fun _ member => mark_of_mem_markText member⟩⟩
  exact List.append_ne_nil_of_right_ne_nil _ (mt List.map_eq_nil_iff.mp present)

theorem Front.hasLabel (front : Front source line)
    {more : List MarkedByte} (marks : ∀ byte ∈ more,
      byte.2 = .text source ∨ byte.2 = .text .separator) :
    HasLabel (line ++ more) := by
  obtain ⟨label, body, rfl, rfl, bodyMarks⟩ := front
  refine ⟨label, body ++ more, List.append_assoc .., ?_⟩
  exact List.forall_mem_append.mpr
    ⟨fun byte member => .inl (bodyMarks byte member), marks⟩

theorem Written.good (written : Written source line) : Good norm line := by
  have labelled := written.front.hasLabel (List.forall_mem_nil _)
  rw [List.append_nil] at labelled
  exact .inr labelled

theorem Writes.append {first second middle after : List MarkedByte}
    (writes : Writes norm begun first middle)
    (more : Writes norm middle second after) :
    Writes norm begun (first ++ second) after := by
  constructor
  · rw [cut_append, writes.after]
    exact List.forall_mem_append.mpr ⟨writes.good, more.good⟩
  · rw [cut_append, writes.after]
    exact more.after

theorem writes_nil (begun : List MarkedByte) : Writes norm begun [] begun :=
  ⟨List.forall_mem_nil _, rfl⟩

theorem cut_of_plain {more : List MarkedByte}
    (plain : ∀ byte ∈ more, Plain byte.1) :
    cut (lineEnds norm) begun more = ⟨[], begun ++ more⟩ := by
  induction more generalizing begun with
  | nil => rw [List.append_nil]; rfl
  | cons byte more ih =>
      obtain ⟨here, later⟩ := List.forall_mem_cons.mp plain
      have goes : lineEnds norm (begun ++ [byte]) = false := by
        unfold lineEnds
        rw [bytesOf_append]
        exact endsWithEOL_concat_of_plain _ here
      rw [cut, if_neg (by simp [goes]), ih later, List.append_assoc,
        List.singleton_append]

theorem plain_marked (label : LineLabel) :
    ∀ byte ∈ label.marked, Plain byte.1 := by
  intro byte member
  obtain ⟨x, there, rfl⟩ := List.mem_map.mp member
  exact plain_label label x there

theorem writes_label (label : LineLabel) :
    Writes norm [] label.marked label.marked := by
  have whole := @cut_of_plain norm [] _ (plain_marked label)
  exact ⟨by rw [whole]; exact List.forall_mem_nil _, by rw [whole]; rfl⟩

theorem cut_of_ends {byte : MarkedByte}
    (single : [byte.1] ∈ eols norm.lineEnding) :
    cut (lineEnds norm) begun [byte] = ⟨[begun ++ [byte]], []⟩ := by
  have stops : lineEnds norm (begun ++ [byte]) = true := by
    unfold lineEnds
    rw [bytesOf_append]
    exact endsWithEOL_append_of_ends _
      ((endsWithEOL_singleton_iff _).mpr single)
  rw [cut, if_pos stops]
  rfl

theorem cut_of_starts {first second : MarkedByte}
    (starts : Starts norm.lineEnding first.1 second.1) :
    cut (lineEnds norm) begun [first, second] =
      ⟨[begun ++ [first, second]], []⟩ := by
  have goes : lineEnds norm (begun ++ [first]) = false := by
    unfold lineEnds
    rw [bytesOf_append, Bool.eq_false_iff]
    intro ends
    exact starts.2 (single_of_pair (exists_last_of_ends ends) starts.1)
  have stops : lineEnds norm (begun ++ [first] ++ [second]) = true := by
    unfold lineEnds
    rw [bytesOf_append, bytesOf_append]
    exact (endsWithEOL_concat_concat_iff _ _ _).mpr (.inl starts.1)
  rw [cut, if_neg (by simp [goes]), cut, if_pos stops, List.append_assoc]
  rfl

/-- A separator finishes the line that it is written onto. -/
theorem cut_separator (norm : NormalizationOptions) (begun : List MarkedByte) :
    cut (lineEnds norm) begun (separator norm).marked =
      ⟨[begun ++ (separator norm).marked], []⟩ := by
  have marks : (separator norm).marked =
      markText .separator (lineSep norm.lineEnding) := rfl
  rw [marks]
  cases mode : norm.lineEnding with
  | asIs => exact cut_of_ends (by rw [mode]; decide)
  | lf => exact cut_of_ends (by rw [mode]; decide)
  | cr => exact cut_of_ends (by rw [mode]; decide)
  | crlf => exact cut_of_starts (by rw [mode, starts_iff]; decide)
  | lfcr => exact cut_of_starts (by rw [mode, starts_iff]; decide)

theorem mem_eols_lineSep (mode : LineEndingMode) : lineSep mode ∈ eols mode := by
  cases mode <;> simp [lineSep, eols]

theorem bytesOf_separator (norm : NormalizationOptions) :
    bytesOf (separator norm).marked = lineSep norm.lineEnding :=
  bytesOf_markText _ _

theorem writes_separator (start : begun = [] ∨ Front source begun) :
    Writes norm begun (separator norm).marked [] := by
  refine ⟨?_, by rw [cut_separator]⟩
  rw [cut_separator]
  refine List.forall_mem_singleton.mpr ?_
  rcases start with rfl | front
  · refine .inl (.inr ?_)
    rw [List.nil_append, bytesOf_separator]
    exact mem_eols_lineSep _
  · exact .inr (front.hasLabel fun _ member =>
      .inr (mark_of_mem_markText member))

/-- The text and the line that it is written onto are one line, which ends
where the text does. -/
structure Onto (norm : NormalizationOptions) (begun : List MarkedByte)
    (text : Bytes) : Prop where
  unfinished : Unfinished (lineEnds norm) begun
  one : OneLine norm.lineEnding (bytesOf begun ++ text)
  ends : endsWithEOL norm.lineEnding (bytesOf begun ++ text) =
    endsWithEOL norm.lineEnding text

theorem onto_label (label : LineLabel) (one : OneLine norm.lineEnding text) :
    Onto norm label.marked text where
  unfinished := @cut_of_plain norm [] _ (plain_marked label)
  one := by
    rw [bytesOf_marked, oneLine_append_of_plain (plain_label label)]
    exact one
  ends := by
    rw [bytesOf_marked, endsWithEOL_append_of_plain (plain_label label)]

/-- The lines of the bytes -/
theorem map_cut_markText (unfinished : Unfinished (lineEnds norm) begun)
    (source : Source) (text : Bytes) :
    (cut (lineEnds norm) begun (markText source text)).map Prod.fst =
      cut (endsWithEOL norm.lineEnding) [] (bytesOf begun ++ text) := by
  have image := @cut_map MarkedByte UInt8 Prod.fst
    (endsWithEOL norm.lineEnding) [] (begun ++ markText source text)
  have bytes : (begun ++ markText source text).map Prod.fst =
      bytesOf begun ++ text := by
    refine (bytesOf_append begun _).trans ?_
    rw [bytesOf_markText]
  rw [bytes] at image
  rw [← unfinished.cut_goesOn]
  exact image

/-- A text of one line is written onto a line of its side. -/
theorem writes_markText (front : Front source begun)
    (onto : Onto norm begun text) :
    Writes norm begun (markText source text)
      (if endsWithEOL norm.lineEnding text then []
        else begun ++ markText source text) := by
  have bytes := map_cut_markText onto.unfinished source text
  have whole := @flatten_cut _ (lineEnds norm) begun (markText source text)
  obtain ⟨more, others, first, split⟩ :=
    @exists_lines_eq_cons _ (lineEnds norm) begun (markText source text)
  generalize written : cut (lineEnds norm) begun (markText source text) = lines
    at bytes whole first
  obtain ⟨finished, rest⟩ := lines
  rw [← onto.ends]
  rcases onto.one.cut_eq with ⟨goes, same⟩ | ⟨stops, line, blanks, same, blank⟩
  · rw [same, Cut.map, Cut.mk.injEq, List.map_eq_nil_iff] at bytes
    obtain rfl := bytes.1
    rw [if_neg (by simp [goes])]
    refine ⟨?_, by rw [written]; exact whole⟩
    rw [written]
    exact List.forall_mem_nil _
  · rw [same, Cut.map, Cut.mk.injEq, List.map_eq_nil_iff] at bytes
    obtain ⟨images, rfl⟩ := bytes
    obtain ⟨line, later, rfl, rfl, rfl⟩ := List.map_eq_cons_iff.mp images
    obtain rfl : line = begun ++ more := (List.cons.inj first).1
    rw [if_pos stops]
    refine ⟨?_, by rw [written]⟩
    rw [written]
    refine List.forall_mem_cons.mpr ⟨.inr (front.hasLabel ?_), ?_⟩
    · intro byte member
      refine .inl (@mark_of_mem_markText source text byte ?_)
      rw [← split]
      exact List.mem_append_left _ member
    · intro other member
      exact .inl (.inr (blank _ (List.mem_map_of_mem member)))

end Writes

/-! ### What the handlers write -/

section Handlers

variable {norm : NormalizationOptions} {b : Echo} {begun : List MarkedByte}

theorem marked_cons (piece : Piece) (pieces : List Piece) :
    marked (piece :: pieces) = piece.marked ++ marked pieces :=
  List.flatMap_cons

theorem marked_singleton (piece : Piece) : marked [piece] = piece.marked := by
  rw [marked_cons]
  exact List.append_nil _

/-- A text of one line behind a label begins the terminal's line. -/
theorem writes_labelled {text : Bytes} (one : OneLine norm.lineEnding text)
    (label : LineLabel) :
    Writes norm [] (Piece.marked ⟨some label, label.source, text⟩)
      (if endsWithEOL norm.lineEnding text then []
        else label.marked ++ markText label.source text) :=
  (writes_label label).append
    (writes_markText (front_label label) (onto_label label one))

theorem emitRX_of_flatten_eq_nil {parts : List Bytes} (atLineEnd : Bool)
    (empty : parts.flatten = []) :
    Echo.emitRX norm atLineEnd parts = (atLineEnd, []) := by
  induction parts with
  | nil => rfl
  | cons part parts ih =>
      rw [List.flatten_cons, List.append_eq_nil_iff] at empty
      rw [Echo.emitRX, if_pos empty.1]
      exact ih empty.2

/-- Where RX goes on from: at the beginning of a line, or in one of its own -/
structure RXFrom (norm : NormalizationOptions) (atLineEnd : Bool)
    (begun : List MarkedByte) (part : Bytes) : Prop where
  start : atLineEnd = true → begun = []
  goesOn : atLineEnd = false → Front .rx begun ∧ Onto norm begun part

/-- What RX leaves: the line that its last part begins, if it does. -/
structure RXTo (norm : NormalizationOptions) (atLineEnd : Bool)
    (after : List MarkedByte) (text : Bytes) : Prop where
  ends : atLineEnd = endsWithEOL norm.lineEnding text
  start : atLineEnd = true → after = []
  goesOn : atLineEnd = false →
    Written .rx after ∧ (bytesOf after).getLast? = text.getLast?

theorem exists_writes_part {atLineEnd : Bool} {part : Bytes}
    (start : RXFrom norm atLineEnd begun part) (present : part ≠ [])
    (one : OneLine norm.lineEnding part) :
    ∃ after,
      Writes norm begun (Piece.marked
        ⟨if atLineEnd then some .rx else none, .rx, part⟩) after ∧
      RXTo norm (endsWithEOL norm.lineEnding part) after part := by
  have leaves : ∀ front : List MarkedByte, Front .rx front →
      RXTo norm (endsWithEOL norm.lineEnding part)
        (if endsWithEOL norm.lineEnding part then []
          else front ++ markText .rx part) part := by
    intro front isFront
    refine ⟨rfl, fun stops => if_pos stops, fun goes => ?_⟩
    rw [if_neg (by simp [goes]), bytesOf_append, bytesOf_markText,
      List.getLast?_append_of_ne_nil _ present]
    exact ⟨isFront.written present, rfl⟩
  cases atLineEnd with
  | true =>
      obtain rfl := start.start rfl
      exact ⟨_, writes_labelled one .rx, leaves _ (front_label .rx)⟩
  | false =>
      obtain ⟨front, onto⟩ := start.goesOn rfl
      exact ⟨_, writes_markText front onto, leaves _ front⟩

theorem exists_writes_emitRX {atLineEnd : Bool} {parts : List Bytes}
    (splits : Splits norm.lineEnding parts) (present : parts.flatten ≠ [])
    (start : RXFrom norm atLineEnd begun (parts.headD [])) :
    ∃ after,
      Writes norm begun (marked (Echo.emitRX norm atLineEnd parts).2) after ∧
      RXTo norm (Echo.emitRX norm atLineEnd parts).1 after parts.flatten := by
  induction parts generalizing atLineEnd begun with
  | nil => exact absurd rfl present
  | cons part parts ih =>
      have here := splits.head_ne_nil present
      obtain ⟨one, ends, rest⟩ := splits
      rw [List.flatten_cons] at present ⊢
      rw [Echo.emitRX, if_neg here]
      obtain ⟨middle, writes, leaves⟩ := exists_writes_part start here one
      rcases eq_or_ne parts.flatten [] with empty | more
      · rw [emitRX_of_flatten_eq_nil _ empty, empty, List.append_nil]
        refine ⟨middle, ?_, leaves⟩
        rw [marked_singleton]
        exact writes
      · have stops := ends.resolve_right more
        have next : RXFrom norm (endsWithEOL norm.lineEnding part) middle
            (parts.headD []) :=
          ⟨leaves.start, fun goesOn => absurd (stops.symm.trans goesOn) (by simp)⟩
        obtain ⟨after, later, last⟩ := ih rest more next
        refine ⟨after, ?_, ?_, last.start, fun goesOn => ?_⟩
        · dsimp only
          rw [marked_cons]
          exact writes.append later
        · rw [endsWithEOL_append_of_front stops more]
          exact last.ends
        · rw [List.getLast?_append_of_ne_nil _ more]
          exact last.goesOn goesOn

/-- Where the line is that the flags tell of. -/
structure Tracks (norm : NormalizationOptions) (b : Echo)
    (begun : List MarkedByte) : Prop where
  rx : b.rxAtLineEnd = false → b.txLineActive = false ∧
    Written .rx begun ∧ Sealed norm (bytesOf begun)
  tx : b.rxAtLineEnd = true → b.txLineActive = true →
    Written .tx begun ∧ Sealed norm (bytesOf begun)
  start : b.rxAtLineEnd = true → b.txLineActive = false →
    begun = [] ∨ Written .tx begun

/-- The flags tell so, and the text is one line where they tell that it is
written. -/
structure Ready (norm : NormalizationOptions) (b : Echo)
    (begun : List MarkedByte) (text : Bytes) : Prop where
  rx : b.rxAtLineEnd = false → b.txLineActive = false ∧
    (begun = [] ∨ Front .rx begun)
  tx : b.rxAtLineEnd = true → b.txLineActive = true →
    Front .tx begun ∧ Onto norm begun text
  start : b.rxAtLineEnd = true → b.txLineActive = false → begun = []
  one : b.txLineActive = false → OneLine norm.lineEnding text

theorem sealed_of_getLast?_eq (noANSI : norm.preserveANSI = false) {data : Bytes}
    {line : Bytes} (same : line.getLast? = (normalize norm data).getLast?) :
    Sealed norm line := by
  intro c d starts last
  rw [same] at last
  exact sealed_normalize noANSI data c d starts last

theorem emitTX_eq {data : Bytes} (present : data ≠ []) (origin : TXOrigin) :
    b.emitTX norm data origin =
      let text := normalize norm data
      let breaks := !b.rxAtLineEnd && !b.txLineActive
      let ended := endsWithEOL norm.lineEnding text
      let closes := origin = .system && !ended
      ({ b with
          rxAtLineEnd := b.rxAtLineEnd || breaks
          txLineActive := !(ended || closes) },
        (if breaks then [separator norm] else []) ++
          [⟨if b.txLineActive then none else some origin.label, .tx, text⟩] ++
          (if closes then [separator norm] else [])) := by
  unfold Echo.emitTX
  rw [if_neg present]
  dsimp only
  rw [if_neg (normalize_ne_nil present)]

/-- A text of the TX side is written onto a line of it, with a separator behind
a system message. -/
theorem exists_writes_closing (noANSI : norm.preserveANSI = false)
    {line before : List MarkedByte} {data : Bytes} {ended closes : Bool}
    (front : Front .tx line) (present : data ≠ [])
    (writes : Writes norm begun before
      (if ended then [] else line ++ markText .tx (normalize norm data)))
    (goes : closes = true → ended = false) :
    ∃ after,
      Writes norm begun
        (before ++ marked (if closes then [separator norm] else [])) after ∧
      ((!(ended || closes)) = true →
        Written .tx after ∧ Sealed norm (bytesOf after)) ∧
      ((!(ended || closes)) = false → after = []) := by
  have text : normalize norm data ≠ [] := normalize_ne_nil present
  have written := front.written text
  cases closes with
  | false =>
      rw [Bool.or_false]
      refine ⟨_, writes.append (writes_nil _), fun active => ?_, fun ended => ?_⟩
      · rw [if_neg (by simpa using active)]
        refine ⟨written, @sealed_of_getLast?_eq norm noANSI data _ ?_⟩
        rw [bytesOf_append, bytesOf_markText,
          List.getLast?_append_of_ne_nil _ text]
      · rw [if_pos (by simpa using ended)]
  | true =>
      obtain rfl := goes rfl
      refine ⟨[], ?_, fun active => absurd active (by decide), fun _ => rfl⟩
      refine writes.append ?_
      rw [if_pos rfl, marked_singleton]
      exact writes_separator (.inr written.front)

/-- The text of an event with the separators around it -/
theorem exists_writes_emitTX (noANSI : norm.preserveANSI = false)
    {data : Bytes} (ready : Ready norm b begun (normalize norm data))
    (present : data ≠ []) (origin : TXOrigin) :
    ∃ after,
      Writes norm begun (marked (b.emitTX norm data origin).2) after ∧
      (b.emitTX norm data origin).1.rxAtLineEnd = true ∧
      ((b.emitTX norm data origin).1.txLineActive = true →
        Written .tx after ∧ Sealed norm (bytesOf after)) ∧
      ((b.emitTX norm data origin).1.txLineActive = false → after = []) := by
  have side : origin.label.source = .tx := by
    cases origin <;> rfl
  have labelled : b.txLineActive = false → Writes norm []
      (Piece.marked ⟨some origin.label, .tx, normalize norm data⟩)
      (if endsWithEOL norm.lineEnding (normalize norm data) then []
        else origin.label.marked ++ markText .tx (normalize norm data)) := by
    intro notActive
    have writes := writes_labelled (ready.one notActive) origin.label
    rw [side] at writes
    exact writes
  have front := front_label origin.label
  rw [side] at front
  have closing : (decide (origin = .system) &&
      !endsWithEOL norm.lineEnding (normalize norm data)) = true →
      endsWithEOL norm.lineEnding (normalize norm data) = false := by
    intro closes
    rw [Bool.and_eq_true, Bool.not_eq_true'] at closes
    exact closes.2
  rw [emitTX_eq present origin]
  dsimp only
  rw [marked_append, marked_append, marked_singleton]
  cases atEnd : b.rxAtLineEnd with
  | false =>
      obtain ⟨notActive, start⟩ := ready.rx atEnd
      have separated : Writes norm begun (separator norm).marked [] :=
        writes_separator start
      obtain ⟨after, writes, active, ended⟩ := exists_writes_closing noANSI front
        present (separated.append (labelled notActive)) closing
      rw [notActive]
      refine ⟨after, ?_, rfl, active, ended⟩
      rw [if_pos (by decide), marked_singleton]
      exact writes
  | true =>
      cases active : b.txLineActive with
      | false =>
          obtain rfl := ready.start atEnd active
          obtain ⟨after, writes, active, ended⟩ := exists_writes_closing noANSI
            front present (labelled active) closing
          exact ⟨after, writes, rfl, active, ended⟩
      | true =>
          obtain ⟨line, onto⟩ := ready.tx atEnd active
          have goesOn := writes_markText line onto
          obtain ⟨after, writes, active, ended⟩ := exists_writes_closing noANSI
            line present goesOn closing
          exact ⟨after, writes, rfl, active, ended⟩

/-- What is emitted for RX data, the line that a TX event has begun being ended
before it. -/
def rxLines (norm : NormalizationOptions) (b : Echo) (data : Bytes) :
    Bool × List Piece :=
  let lines := Echo.emitRX norm b.rxAtLineEnd
    (splitAfterAnyEOL norm.lineEnding (normalize norm data))
  (lines.1, (if b.txLineActive then [separator norm] else []) ++ lines.2)

theorem handleRX_eq {data : Bytes} (present : data ≠ []) :
    b.handleRX norm data =
      let lines := rxLines norm b data
      let after := { b with txLineActive := false, rxAtLineEnd := lines.1 }
      if b.pendingTX.isSome && lines.1 then
        ({ (after.flushPendingTX norm).1 with quietTimer := false },
          lines.2 ++ (after.flushPendingTX norm).2)
      else (after, lines.2) := by
  unfold Echo.handleRX
  rw [if_neg present]
  dsimp only
  rw [if_neg (normalize_ne_nil present)]
  rfl

/-- The first part of a text is written onto the line of RX. -/
theorem onto_firstPart (noANSI : norm.preserveANSI = false)
    (unfinished : Unfinished (lineEnds norm) begun)
    (isSealed : Sealed norm (bytesOf begun)) {data : Bytes} (present : data ≠ [])
    (one : OneLine norm.lineEnding
      (bytesOf begun ++ firstPart norm (normalize norm data))) :
    Onto norm begun (firstPart norm (normalize norm data)) := by
  refine ⟨unfinished, one, ?_⟩
  have whole := flatten_splitAfterAnyEOL norm.lineEnding (normalize norm data)
  have splits := splits_splitAfterAnyEOL norm.lineEnding (normalize norm data)
  unfold firstPart
  cases same : splitAfterAnyEOL norm.lineEnding (normalize norm data) with
  | nil =>
      rw [same] at whole
      exact absurd whole.symm (normalize_ne_nil present)
  | cons part parts =>
      rw [same] at whole splits
      obtain ⟨-, ends | last, -⟩ := splits
      · rw [List.headD_cons, ends]
        exact endsWithEOL_append_of_ends _ ends
      · rw [List.flatten_cons, last, List.append_nil] at whole
        rw [List.headD_cons, whole]
        exact isSealed.endsWithEOL_append noANSI present

theorem exists_writes_rxLines (noANSI : norm.preserveANSI = false)
    (unfinished : Unfinished (lineEnds norm) begun)
    (tracks : Tracks norm b begun)
    (inStep : b.rxAtLineEnd = true → b.txLineActive = false → begun = [])
    {data : Bytes} (present : data ≠ [])
    (one : b.rxAtLineEnd = false → OneLine norm.lineEnding
      (bytesOf begun ++ firstPart norm (normalize norm data))) :
    ∃ after, Writes norm begun (marked (rxLines norm b data).2) after ∧
      RXTo norm (rxLines norm b data).1 after (normalize norm data) := by
  have whole := flatten_splitAfterAnyEOL norm.lineEnding (normalize norm data)
  have splits := splits_splitAfterAnyEOL norm.lineEnding (normalize norm data)
  have text : normalize norm data ≠ [] := normalize_ne_nil present
  have from_ : ∃ middle,
      Writes norm begun
        (marked (if b.txLineActive then [separator norm] else [])) middle ∧
      RXFrom norm b.rxAtLineEnd middle
        (firstPart norm (normalize norm data)) := by
    cases active : b.txLineActive with
    | false =>
        refine ⟨begun, writes_nil _, fun atEnd => inStep atEnd active, ?_⟩
        intro midLine
        obtain ⟨-, written, isSealed⟩ := tracks.rx midLine
        exact ⟨written.front,
          onto_firstPart noANSI unfinished isSealed present (one midLine)⟩
    | true =>
        have atEnd : b.rxAtLineEnd = true := by
          by_contra midLine
          rw [Bool.not_eq_true] at midLine
          rw [(tracks.rx midLine).1] at active
          cases active
        refine ⟨[], ?_, fun _ => rfl, fun midLine => ?_⟩
        · rw [if_pos rfl, marked_singleton]
          exact writes_separator (.inr (tracks.tx atEnd active).1.front)
        · rw [atEnd] at midLine
          cases midLine
  obtain ⟨middle, ends, start⟩ := from_
  rw [← whole] at text
  obtain ⟨after, lines, leaves⟩ := exists_writes_emitRX splits text start
  rw [whole] at leaves
  refine ⟨after, ?_, leaves⟩
  unfold rxLines
  rw [marked_append]
  exact ends.append lines

theorem flushPendingTX_eq {tx : TX} (waits : b.pendingTX = some tx) :
    b.flushPendingTX norm =
      ({ (b.emitTX norm tx.data tx.origin).1 with
          pendingTX := none, txLineActive := false },
        (b.emitTX norm tx.data tx.origin).2) := by
  unfold Echo.flushPendingTX
  rw [waits]

/-- A text that is flushed leaves the line that it begins unheeded. -/
theorem exists_writes_flushPendingTX (noANSI : norm.preserveANSI = false)
    {tx : TX} (ready : Ready norm b begun (normalize norm tx.data))
    (waits : b.pendingTX = some tx) (present : tx.data ≠ []) :
    ∃ after, Writes norm begun (marked (b.flushPendingTX norm).2) after ∧
      (b.flushPendingTX norm).1.rxAtLineEnd = true ∧
      (b.flushPendingTX norm).1.txLineActive = false ∧
      (after = [] ∨ Written .tx after) := by
  rw [flushPendingTX_eq waits]
  obtain ⟨after, writes, atEnd, active, ended⟩ :=
    exists_writes_emitTX noANSI ready present tx.origin
  refine ⟨after, writes, atEnd, rfl, ?_⟩
  cases goesOn : (b.emitTX norm tx.data tx.origin).1.txLineActive with
  | false => exact .inl (ended goesOn)
  | true => exact .inr (active goesOn).1

theorem tracks_of_flushed {after : List MarkedByte}
    (atEnd : b.rxAtLineEnd = true) (notActive : b.txLineActive = false)
    (ended : after = [] ∨ Written .tx after) : Tracks norm b after where
  rx midLine := by
    rw [atEnd] at midLine
    cases midLine
  tx _ active := by
    rw [notActive] at active
    cases active
  start _ _ := ended

theorem Waits.midLine (waits : Waits b) {tx : TX} (there : b.pendingTX = some tx) :
    b.rxAtLineEnd = false :=
  (waits tx there).2.1

theorem exists_tracks_handleRX (noANSI : norm.preserveANSI = false)
    (unfinished : Unfinished (lineEnds norm) begun)
    (tracks : Tracks norm b begun) (waits : Waits b) {data : Bytes}
    (present : data ≠ [])
    (inStep : b.rxAtLineEnd = true → b.txLineActive = false → begun = [])
    (first : b.rxAtLineEnd = false → OneLine norm.lineEnding
      (bytesOf begun ++ firstPart norm (normalize norm data)))
    (one : ∀ tx ∈ b.pendingTX,
      endsWithEOL norm.lineEnding (normalize norm data) = true →
        OneLine norm.lineEnding (normalize norm tx.data)) :
    ∃ after, Writes norm begun (marked (b.handleRX norm data).2) after ∧
      Tracks norm (b.handleRX norm data).1 after := by
  obtain ⟨after, lines, leaves⟩ :=
    exists_writes_rxLines noANSI unfinished tracks inStep present first
  rw [handleRX_eq present]
  generalize rxLines norm b data = written at lines leaves ⊢
  obtain ⟨atLineEnd, pieces⟩ := written
  dsimp only at lines leaves ⊢
  split
  · rename_i flushes
    rw [Bool.and_eq_true, Option.isSome_iff_exists] at flushes
    obtain ⟨⟨tx, there⟩, rfl⟩ := flushes
    have ready : Ready norm
        { b with txLineActive := false, rxAtLineEnd := true } after
        (normalize norm tx.data) :=
      ⟨(nomatch ·), fun _ active => (nomatch active),
        fun _ _ => leaves.start rfl, fun _ => one tx there leaves.ends.symm⟩
    obtain ⟨last, more, atEnd, notActive, ended⟩ :=
      exists_writes_flushPendingTX noANSI ready there (waits tx there).1
    refine ⟨last, ?_, tracks_of_flushed atEnd notActive ended⟩
    rw [marked_append]
    exact lines.append more
  · refine ⟨after, lines, fun midLine => ⟨rfl, ?_⟩, fun _ active => ?_,
      fun atEnd _ => .inl (leaves.start atEnd)⟩
    · obtain ⟨isWritten, same⟩ := leaves.goesOn midLine
      exact ⟨isWritten, sealed_of_getLast?_eq noANSI same⟩
    · cases active

/-- The flags tell where a text that is emitted at once is written. -/
theorem Tracks.ready (tracks : Tracks norm b begun)
    (noANSI : norm.preserveANSI = false)
    (unfinished : Unfinished (lineEnds norm) begun)
    (atEnd : b.rxAtLineEnd = true)
    (inStep : b.rxAtLineEnd = true → b.txLineActive = false → begun = [])
    {data : Bytes} (present : data ≠ [])
    (one : OneLine norm.lineEnding (bytesOf begun ++ normalize norm data)) :
    Ready norm b begun (normalize norm data) where
  rx midLine := absurd (atEnd.symm.trans midLine) (by decide)
  tx _ active := by
    obtain ⟨written, isSealed⟩ := tracks.tx atEnd active
    exact ⟨written.front,
      ⟨unfinished, one, isSealed.endsWithEOL_append noANSI present⟩⟩
  start := inStep
  one notActive := by
    rw [inStep atEnd notActive] at one
    exact one

theorem exists_tracks_handleTX (noANSI : norm.preserveANSI = false)
    (unfinished : Unfinished (lineEnds norm) begun)
    (tracks : Tracks norm b begun) {data : Bytes} (present : data ≠ [])
    (origin : TXOrigin)
    (keeps : b.rxAtLineEnd = true → b.pendingTX = none →
      (b.rxAtLineEnd = true → b.txLineActive = false → begun = []) ∧
        OneLine norm.lineEnding (bytesOf begun ++ normalize norm data)) :
    ∃ after, Writes norm begun (marked (b.handleTX norm data origin).2) after ∧
      Tracks norm (b.handleTX norm data origin).1 after := by
  unfold Echo.handleTX
  rw [if_neg present]
  split
  · rename_i atOnce
    rw [Bool.and_eq_true, Option.isNone_iff_eq_none] at atOnce
    obtain ⟨inStep, one⟩ := keeps atOnce.1 atOnce.2
    obtain ⟨after, writes, atEnd, active, ended⟩ := exists_writes_emitTX noANSI
      (tracks.ready noANSI unfinished atOnce.1 inStep present one) present origin
    refine ⟨after, writes, fun midLine => ?_, fun _ => active,
      fun _ notActive => .inl (ended notActive)⟩
    rw [atEnd] at midLine
    cases midLine
  · exact ⟨begun, writes_nil _, tracks.rx, tracks.tx, tracks.start⟩

theorem exists_tracks_quiet (noANSI : norm.preserveANSI = false)
    (tracks : Tracks norm b begun) (waits : Waits b)
    (one : ∀ tx ∈ b.pendingTX,
      OneLine norm.lineEnding (normalize norm tx.data)) :
    ∃ after, Writes norm begun (marked (b.quiet norm).2) after ∧
      Tracks norm (b.quiet norm).1 after := by
  unfold Echo.quiet
  dsimp only
  split
  · exact ⟨begun, writes_nil _, tracks.rx, tracks.tx, tracks.start⟩
  · rename_i tx there
    have midLine := waits.midLine there
    obtain ⟨notActive, written, -⟩ := tracks.rx midLine
    have ready : Ready norm { b with quietTimer := false } []
        (normalize norm tx.data) :=
      ⟨fun _ => ⟨notActive, .inl rfl⟩, fun _ active =>
        absurd (notActive.symm.trans active) (by decide), fun _ _ => rfl,
        fun _ => one tx there⟩
    obtain ⟨after, writes, -, -, ended⟩ :=
      exists_writes_flushPendingTX noANSI ready there (waits tx there).1
    refine ⟨after, ?_, tracks_of_flushed rfl rfl ended⟩
    rw [marked_cons]
    exact (writes_separator (.inr written.front)).append writes

end Handlers

end Console

end JetKvm
