import Mathlib.Data.List.Basic

/-!
# Where a JSON value ends

A decoder of JSON reads one value off its input before it looks at what the
value says: the brackets that are open and whether it is inside a string tell
where the value ends.  An object cut short therefore never decodes, and what
follows a whole one does not matter.
-/

namespace JetKvm

namespace JsonText

/-- How many brackets are open, whether a string is, and whether the character
before was the backslash of an escape. -/
structure Scanner where
  depth : Nat := 0
  inString : Bool := false
  escaped : Bool := false
  deriving DecidableEq, Repr

namespace Scanner

def step (scanner : Scanner) (char : Char) : Scanner :=
  if scanner.escaped then { scanner with escaped := false }
  else if scanner.inString then
    if char = '\\' then { scanner with escaped := true }
    else if char = '"' then { scanner with inString := false }
    else scanner
  else if char = '"' then { scanner with inString := true }
  else if char = '{' ∨ char = '[' then
    { scanner with depth := scanner.depth + 1 }
  else if char = '}' ∨ char = ']' then
    { scanner with depth := scanner.depth - 1 }
  else scanner

/-- Nothing is open any more. -/
def Closed (scanner : Scanner) : Prop :=
  scanner.depth = 0 ∧ scanner.inString = false

instance (scanner : Scanner) : Decidable scanner.Closed :=
  inferInstanceAs (Decidable (_ ∧ _))

/-- The text up to where everything is closed, unless it ends before -/
def read (scanner : Scanner) : List Char → Option (List Char)
  | [] => none
  | char :: text =>
      if (scanner.step char).Closed then some [char]
      else ((scanner.step char).read text).map (char :: ·)

variable {scanner : Scanner} {text more value : List Char}

theorem read_append (found : scanner.read text = some value) :
    scanner.read (text ++ more) = some value := by
  induction text generalizing scanner value with
  | nil => simp [read] at found
  | cons char text ih =>
      rw [List.cons_append, read]
      by_cases closed : (scanner.step char).Closed
      · simpa [read, closed] using found
      · simp only [read, closed, if_false, Option.map_eq_some_iff] at found ⊢
        obtain ⟨inside, found, rfl⟩ := found
        exact ⟨inside, ih found, rfl⟩

theorem length_le_of_read (found : scanner.read text = some value) :
    value.length ≤ text.length := by
  induction text generalizing scanner value with
  | nil => simp [read] at found
  | cons char text ih =>
      by_cases closed : (scanner.step char).Closed
      · simp only [read, closed, if_true, Option.some.injEq] at found
        simp [← found]
      · simp only [read, closed, if_false, Option.map_eq_some_iff] at found
        obtain ⟨inside, found, rfl⟩ := found
        have shorter := ih found
        simp only [List.length_cons]
        omega

/-- A text that is read whole does not close before its end. -/
theorem read_eq_none (whole : scanner.read (text ++ more) = some (text ++ more))
    (short : more ≠ []) : scanner.read text = none := by
  cases found : scanner.read text with
  | none => rfl
  | some value =>
      have same : value = text ++ more :=
        Option.some.inj ((read_append found).symm.trans whole)
      have bound : (text ++ more).length ≤ text.length :=
        same ▸ length_le_of_read found
      rw [List.length_append] at bound
      have positive := List.length_pos_iff.mpr short
      omega

end Scanner

def IsSpace (char : Char) : Prop :=
  char = ' ' ∨ char = '\t' ∨ char = '\n' ∨ char = '\r'

instance (char : Char) : Decidable (IsSpace char) :=
  inferInstanceAs (Decidable (_ ∨ _))

def Opens (char : Char) : Prop := char = '{' ∨ char = '[' ∨ char = '"'

instance (char : Char) : Decidable (Opens char) :=
  inferInstanceAs (Decidable (_ ∨ _))

/-- What ends a number or a literal -/
def Delimits (char : Char) : Prop :=
  IsSpace char ∨ char ∈ [',', ':', '{', '}', '[', ']', '"']

instance (char : Char) : Decidable (Delimits char) :=
  inferInstanceAs (Decidable (_ ∨ _))

/-- The next value of the input, without the white space before it.  A number
or literal also ends where the input does. -/
def readValue (input : List Char) : Option (List Char) :=
  match input.dropWhile (fun char => IsSpace char) with
  | [] => none
  | char :: rest =>
      if Opens char then Scanner.read {} (char :: rest)
      else some ((char :: rest).takeWhile fun char => ¬ Delimits char)

@[simp]
theorem readValue_nil : readValue [] = none := rfl

theorem readValue_brace (rest : List Char) :
    readValue ('{' :: rest) = Scanner.read {} ('{' :: rest) := by
  simp [readValue, IsSpace, Opens]

/-- The text of one object and nothing else -/
structure IsObject (text : List Char) : Prop where
  brace : text.head? = some '{'
  whole : readValue text = some text

namespace IsObject

variable {text more : List Char}

/-- What follows an object is left to the next value. -/
theorem readValue_append (object : IsObject text) :
    readValue (text ++ more) = some text := by
  obtain ⟨rest, rfl⟩ := List.head?_eq_some_iff.mp object.brace
  have whole := object.whole
  rw [readValue_brace] at whole
  rw [List.cons_append, readValue_brace, ← List.cons_append]
  exact Scanner.read_append whole

/-- An object cut short is no value. -/
theorem readValue_take (object : IsObject text) {length : Nat}
    (short : length < text.length) : readValue (text.take length) = none := by
  obtain ⟨rest, rfl⟩ := List.head?_eq_some_iff.mp object.brace
  cases length with
  | zero => simp
  | succ length =>
      have whole := object.whole
      rw [readValue_brace,
        ← List.take_append_drop (length + 1) ('{' :: rest)] at whole
      have remains : ('{' :: rest).drop (length + 1) ≠ [] := by
        intro finished
        have bound := List.drop_eq_nil_iff.mp finished
        omega
      have unread := Scanner.read_eq_none whole remains
      rw [List.take_succ_cons] at unread ⊢
      rw [readValue_brace]
      exact unread

end IsObject

end JsonText

end JetKvm
