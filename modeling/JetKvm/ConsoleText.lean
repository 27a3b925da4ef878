import JetKvm.CutLines

/-!
# The text of the serial console

Translation of `normalize`, `splitAfterAnyEOL`, `endsWithEOL` and `lineSep` in
`serial_console_helpers.go`.
-/

namespace JetKvm

namespace Console

open CutLines

abbrev Bytes := List UInt8

def ascii (text : String) : Bytes :=
  text.toList.map fun c => UInt8.ofNat c.toNat

inductive NormalizeMode where
  | caret
  | names
  | hex
  deriving DecidableEq, Repr

inductive LineEndingMode where
  | asIs
  | lf
  | cr
  | crlf
  | lfcr
  deriving DecidableEq, Repr

structure NormalizationOptions where
  mode : NormalizeMode := .caret
  lineEnding : LineEndingMode := .asIs
  tabRender : Bytes := []
  preserveANSI : Bool := false
  showNLTag : Bool := false
  deriving DecidableEq, Repr

def cr : UInt8 := 13

def lf : UInt8 := 10

def esc : UInt8 := 27

/-! ### Normalization -/

/-- The end of a control sequence, and what follows it -/
def csi (rest : Bytes) : Bytes × Bytes :=
  let isFinal (c : UInt8) : Bool := 0x40 ≤ c && c ≤ 0x7E
  let body := rest.takeWhile fun c => !isFinal c
  let final := rest.dropWhile fun c => !isFinal c
  (body ++ final.take 1, final.drop 1)

/-- The end of an operating system command, which a bell or a string terminator
ends, and what follows it -/
def osc : Bytes → Bytes × Bytes
  | [] => ([], [])
  | c :: rest =>
      if c = 7 then ([c], rest)
      else if c = esc ∧ rest.head? = some 92 then ([c, 92], rest.drop 1)
      else (c :: (osc rest).1, (osc rest).2)

def isPair (b : UInt8) (rest : Bytes) : Bool :=
  (b = cr && rest.head? = some lf) || (b = lf && rest.head? = some cr)

def newlineTag (b : UInt8) (pair : Bool) : Bytes :=
  if pair then
    if b = cr then ascii "<CRLF>" else ascii "<LFCR>"
  else if b = cr then ascii "<CR>"
  else ascii "<LF>"

def newline (lineEnding : LineEndingMode) (b : UInt8) (rest : Bytes) : Bytes :=
  match lineEnding with
  | .asIs => if isPair b rest then b :: rest.take 1 else [b]
  | .lf => [lf]
  | .cr => [cr]
  | .crlf => [cr, lf]
  | .lfcr => [lf, cr]

def controlNames : List String :=
  ["NUL", "SOH", "STX", "ETX", "EOT", "ENQ", "ACK", "BEL", "BS", "TAB", "LF",
    "VT", "FF", "CR", "SO", "SI", "DLE", "DC1", "DC2", "DC3", "DC4", "NAK",
    "SYN", "ETB", "CAN", "EM", "SUB", "ESC", "FS", "GS", "RS", "US"]

def hexDigit (n : Nat) : UInt8 :=
  UInt8.ofNat (if n < 10 then 48 + n else 55 + n)

/-- `%02X` -/
def hexByte (b : UInt8) : Bytes :=
  [hexDigit (b.toNat / 16), hexDigit (b.toNat % 16)]

def control (mode : NormalizeMode) (b : UInt8) : Bytes :=
  match mode with
  | .caret => if b = 0x7F then ascii "^?" else ascii "^" ++ [64 + b]
  | .names =>
      match if b = 127 then some "DEL" else controlNames[b.toNat]? with
      | some n => ascii "<" ++ ascii n ++ ascii ">"
      | none => ascii "0x" ++ hexByte b
  | .hex => ascii "\\x" ++ hexByte b

variable (opt : NormalizationOptions)

/-- One round of the loop: what is written, and what is left to be read. -/
def normalizeNext (b : UInt8) (rest : Bytes) : Bytes × Bytes :=
  if opt.preserveANSI ∧ b = esc ∧ rest.head? = some 91 then
    (b :: 91 :: (csi (rest.drop 1)).1, (csi (rest.drop 1)).2)
  else if opt.preserveANSI ∧ b = esc ∧ rest.head? = some 93 then
    (b :: 93 :: (osc (rest.drop 1)).1, (osc (rest.drop 1)).2)
  else if b = cr ∨ b = lf then
    ((if opt.showNLTag then newlineTag b (isPair b rest) else []) ++
      newline opt.lineEnding b rest,
      if isPair b rest then rest.drop 1 else rest)
  else if b = 9 then
    (if opt.tabRender ≠ [] then opt.tabRender else [b], rest)
  else if b < 0x20 ∨ b = 0x7F then (control opt.mode b, rest)
  else ([b], rest)

/-- Each round reads a byte at least. -/
def normalizeLoop : (rounds : Nat) → Bytes → Bytes
  | 0, _ => []
  | _, [] => []
  | rounds + 1, b :: rest =>
      (normalizeNext opt b rest).1 ++
        normalizeLoop rounds (normalizeNext opt b rest).2

def normalize (text : Bytes) : Bytes := normalizeLoop opt text.length text

/-! ### Line endings -/

def eols : LineEndingMode → List Bytes
  | .crlf => [[cr, lf]]
  | .lfcr => [[lf, cr]]
  | .lf => [[lf]]
  | .cr => [[cr]]
  | .asIs => [[cr, lf], [lf, cr], [lf], [cr]]

def endsWithEOL (mode : LineEndingMode) (s : Bytes) : Bool :=
  if s = [] then false else (eols mode).any fun eol => eol.isSuffixOf s

def lineSep : LineEndingMode → Bytes
  | .crlf => [cr, lf]
  | .lfcr => [lf, cr]
  | .cr => [cr]
  | .lf => [lf]
  | .asIs => [lf]

/-- `strings.SplitAfter` -/
def splitAfter (sep text : Bytes) : List Bytes :=
  (cut (fun read => sep.isSuffixOf read) [] text).lines

/-- The loop of `splitAfterAnyEOL` for line endings as they are, after what was
read of a part. -/
def splitAsIs : (part : Bytes) → Bytes → List Bytes
  | part, [] => if part = [] then [] else [part]
  | part, [b] =>
      if b = cr ∨ b = lf then [part ++ [b]] else splitAsIs (part ++ [b]) []
  | part, b :: c :: rest =>
      if b = cr ∨ b = lf then
        if isPair b (c :: rest) then (part ++ [b, c]) :: splitAsIs [] rest
        else (part ++ [b]) :: splitAsIs [] (c :: rest)
      else splitAsIs (part ++ [b]) (c :: rest)

def splitAfterAnyEOL (mode : LineEndingMode) (text : Bytes) : List Bytes :=
  if text = [] then []
  else
    match mode with
    | .lf => splitAfter [lf] text
    | .cr => splitAfter [cr] text
    | .crlf => splitAfter [cr, lf] text
    | .lfcr => splitAfter [lf, cr] text
    | .asIs => splitAsIs [] text

variable {opt}

/-! ### Every byte leaves something -/

theorem newline_ne_nil (lineEnding : LineEndingMode) (b : UInt8)
    (rest : Bytes) : newline lineEnding b rest ≠ [] := by
  cases lineEnding with
  | asIs =>
      unfold newline
      dsimp only
      split <;> exact List.cons_ne_nil _ _
  | _ => exact List.cons_ne_nil _ _

theorem control_ne_nil (mode : NormalizeMode) (b : UInt8) :
    control mode b ≠ [] := by
  cases mode with
  | caret =>
      unfold control
      dsimp only
      split <;> exact List.cons_ne_nil _ _
  | names =>
      unfold control
      dsimp only
      generalize (if b = 127 then some "DEL" else controlNames[b.toNat]?) = name
      cases name <;> exact List.cons_ne_nil _ _
  | hex => exact List.cons_ne_nil _ _

theorem normalizeNext_ne_nil (b : UInt8) (rest : Bytes) :
    (normalizeNext opt b rest).1 ≠ [] := by
  unfold normalizeNext
  split
  · exact List.cons_ne_nil _ _
  · split
    · exact List.cons_ne_nil _ _
    · split
      · exact List.append_ne_nil_of_right_ne_nil _ (newline_ne_nil _ _ _)
      · split
        · dsimp only
          split
          · assumption
          · exact List.cons_ne_nil _ _
        · split
          · exact control_ne_nil _ _
          · exact List.cons_ne_nil _ _

/-- Data that is there is never normalized to nothing. -/
theorem normalize_ne_nil {data : Bytes} (present : data ≠ []) :
    normalize opt data ≠ [] := by
  obtain ⟨b, rest, rfl⟩ := List.exists_cons_of_ne_nil present
  unfold normalize
  rw [List.length_cons, normalizeLoop]
  exact List.append_ne_nil_of_left_ne_nil (normalizeNext_ne_nil b rest) _

end Console

end JetKvm
