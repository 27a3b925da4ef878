import Mathlib.Data.List.Basic
import Mathlib.Tactic.Ring

/-!
# HID report descriptors

A report descriptor is a string of items that a host reads once; it says where
in a report each control has its bits.  The parser keeps what the items have
declared so far and adds a field for each main item.  Usage ranges are kept as
ranges.  Physical ranges and units say nothing about where the bits are.  Long
items, delimiters and the stack of global items are refused.
-/

namespace JetKvm

namespace HidDescriptor

/-- The number that the bits of a report form, its first byte the lowest. -/
def littleEndian : List UInt8 → Nat
  | [] => 0
  | byte :: rest => byte.toNat + 256 * littleEndian rest

/-- An item without the two bits for the length of its data -/
structure Item where
  tag : UInt8
  data : List UInt8
  deriving DecidableEq, Repr

/-- Three stands for four bytes. -/
def dataLength (head : UInt8) : Nat :=
  if head &&& 3 = 3 then 4 else (head &&& 3).toNat

/-- `fuel` bounds the number of items. -/
def itemsWithin : Nat → List UInt8 → Option (List Item)
  | _, [] => some []
  | 0, _ :: _ => none
  | fuel + 1, head :: rest =>
      if rest.length < dataLength head then none
      else
        (itemsWithin fuel (rest.drop (dataLength head))).map fun later =>
          ⟨head &&& 0xfc, rest.take (dataLength head)⟩ :: later

def items (descriptor : List UInt8) : Option (List Item) :=
  itemsWithin descriptor.length descriptor

def Item.unsigned (item : Item) : Nat :=
  littleEndian item.data

def Item.signed (item : Item) : Int :=
  (littleEndian item.data : Int).bmod (2 ^ (8 * item.data.length))

inductive Kind where
  | input
  | output
  | feature
  deriving DecidableEq, Repr

structure Usage where
  page : Nat
  id : Nat
  deriving DecidableEq, Repr

/-- `offset` is the bit that the field begins at, behind the report ID.  The
defaults are those of a field of buttons. -/
structure Field where
  kind : Kind := .input
  reportId : Nat := 0
  offset : Nat := 0
  size : Nat := 1
  count : Nat
  logicalMinimum : Int := 0
  logicalMaximum : Int := 1
  flags : Nat := 2
  usagePage : Nat
  usages : List (Nat × Nat) := []
  deriving DecidableEq, Repr

def Field.bits (field : Field) : Nat :=
  field.count * field.size

/-- The field is padding. -/
def Field.constant (field : Field) : Bool :=
  field.flags.testBit 0

/-- Each value belongs to a control of its own; otherwise the values select
controls. -/
def Field.variable (field : Field) : Bool :=
  field.flags.testBit 1

/-- The fields that a report of this kind and ID is made of -/
def fieldsOf (fields : List Field) (kind : Kind) (reportId : Nat) :
    List Field :=
  fields.filter fun field =>
    field.kind = kind ∧ field.reportId = reportId

def reportBits (fields : List Field) (kind : Kind) (reportId : Nat) : Nat :=
  ((fieldsOf fields kind reportId).map Field.bits).sum

/-! ## Parsing -/

/-- What the items have declared; the usages are those since the last main
item. -/
structure Parser where
  usagePage : Nat := 0
  logicalMinimum : Int := 0
  logicalMaximum : Int := 0
  reportSize : Nat := 0
  reportCount : Nat := 0
  reportId : Nat := 0
  usages : List (Nat × Nat) := []
  usageMinimum : Option Nat := none
  depth : Nat := 0
  fields : List Field := []
  deriving DecidableEq, Repr

def Parser.resetLocals (parser : Parser) : Parser :=
  { parser with usages := [], usageMinimum := none }

def Parser.addField (parser : Parser) (kind : Kind) (flags : Nat) : Parser :=
  let field : Field :=
    { kind
      reportId := parser.reportId
      offset := reportBits parser.fields kind parser.reportId
      size := parser.reportSize
      count := parser.reportCount
      logicalMinimum := parser.logicalMinimum
      logicalMaximum := parser.logicalMaximum
      flags
      usagePage := parser.usagePage
      usages := parser.usages }
  { parser.resetLocals with fields := parser.fields ++ [field] }

/-- A logical maximum has no sign where the minimum is not negative. -/
def Parser.next (parser : Parser) (item : Item) : Option Parser :=
  match item.tag.toNat with
  | 0x04 => some { parser with usagePage := item.unsigned }
  | 0x14 => some { parser with logicalMinimum := item.signed }
  | 0x24 =>
      some { parser with
        logicalMaximum :=
          if parser.logicalMinimum < 0 then item.signed else item.unsigned }
  | 0x34 | 0x44 | 0x54 | 0x64 => some parser
  | 0x74 => some { parser with reportSize := item.unsigned }
  | 0x84 => some { parser with reportId := item.unsigned }
  | 0x94 => some { parser with reportCount := item.unsigned }
  | 0x08 =>
      some { parser with
        usages := parser.usages ++ [(item.unsigned, item.unsigned)] }
  | 0x18 => some { parser with usageMinimum := some item.unsigned }
  | 0x28 =>
      parser.usageMinimum.map fun minimum =>
        { parser with
          usages := parser.usages ++ [(minimum, item.unsigned)]
          usageMinimum := none }
  | 0x80 => some (parser.addField .input item.unsigned)
  | 0x90 => some (parser.addField .output item.unsigned)
  | 0xb0 => some (parser.addField .feature item.unsigned)
  | 0xa0 => some { parser.resetLocals with depth := parser.depth + 1 }
  | 0xc0 =>
      if parser.depth = 0 then none
      else some { parser.resetLocals with depth := parser.depth - 1 }
  | _ => none

/-- The fields of a descriptor whose collections are all closed -/
def parse (descriptor : List UInt8) : Option (List Field) := do
  let parser ← (← items descriptor).foldlM Parser.next {}
  if parser.depth = 0 then some parser.fields else none

/-! ## Reading a report -/

/-- The `index`th of the usages in some ranges -/
def usageAt : List (Nat × Nat) → Nat → Option Nat
  | [], _ => none
  | (first, last) :: rest, index =>
      if first + index ≤ last then some (first + index)
      else usageAt rest (index - (last + 1 - first))

/-- The last usage goes on for the values that have none. -/
def Field.usage (field : Field) (index : Nat) : Usage :=
  ⟨field.usagePage,
    (usageAt field.usages index).getD ((field.usages.getLast?.map Prod.snd).getD 0)⟩

def bitsAt (bytes : List UInt8) (offset size : Nat) : Nat :=
  littleEndian bytes / 2 ^ offset % 2 ^ size

def Field.value (field : Field) (payload : List UInt8) (index : Nat) : Int :=
  let raw := bitsAt payload (field.offset + index * field.size) field.size
  if field.logicalMinimum < 0 then (raw : Int).bmod (2 ^ field.size) else raw

def Field.controls (field : Field) (payload : List UInt8) :
    List (Usage × Int) :=
  if field.constant = false ∧ field.variable then
    (List.range field.count).map fun index =>
      (field.usage index, field.value payload index)
  else []

/-- The usage that a value of an array selects; zero stands for no control. -/
def Field.selects (field : Field) (value : Int) : Option Usage :=
  if field.logicalMinimum ≤ value ∧ value ≤ field.logicalMaximum then
    ((usageAt field.usages (value - field.logicalMinimum).toNat).filter
      (· ≠ 0)).map fun id => ⟨field.usagePage, id⟩
  else none

def Field.selected (field : Field) (payload : List UInt8) : List Usage :=
  if field.constant = false ∧ field.variable = false then
    (List.range field.count).filterMap fun index =>
      field.selects (field.value payload index)
  else []

/-- What a report says: the values of the controls that have bits of their own,
and the controls that are selected -/
structure Reading where
  controls : List (Usage × Int) := []
  selected : List Usage := []
  deriving DecidableEq, Repr

/-- The control is on. -/
def Reading.On (reading : Reading) (usage : Usage) : Prop :=
  (∃ value, (usage, value) ∈ reading.controls ∧ value ≠ 0) ∨
    usage ∈ reading.selected

def usesReportIds (fields : List Field) : Bool :=
  fields.any fun field => field.reportId ≠ 0

def readingOf (fields : List Field) (payload : List UInt8) : Reading where
  controls := fields.flatMap (·.controls payload)
  selected := fields.flatMap (·.selected payload)

def readPayload (fields : List Field) (kind : Kind) (reportId : Nat)
    (payload : List UInt8) : Option Reading :=
  if payload.length = (reportBits fields kind reportId + 7) / 8 then
    some (readingOf (fieldsOf fields kind reportId) payload)
  else none

/-- A report that has not the length of its ID is not read. -/
def read (fields : List Field) (kind : Kind) (report : List UInt8) :
    Option Reading :=
  if usesReportIds fields then
    match report with
    | [] => none
    | reportId :: payload => readPayload fields kind reportId.toNat payload
  else readPayload fields kind 0 report

/-- What a host that has read the descriptor makes of a report -/
def hostReads (descriptor : List UInt8) (kind : Kind) (report : List UInt8) :
    Option Reading :=
  (parse descriptor).bind fun fields => read fields kind report

/-! ## The bits of a number -/

theorem littleEndian_drop (bytes : List UInt8) (count : Nat) :
    littleEndian (bytes.drop count) = littleEndian bytes / 2 ^ (8 * count) := by
  induction count generalizing bytes with
  | zero => simp
  | succ count ih =>
      cases bytes with
      | nil => simp [littleEndian]
      | cons byte rest =>
          have small := byte.toNat_lt
          have higher : (byte.toNat + 256 * littleEndian rest) / 2 ^ 8 =
              littleEndian rest := by
            omega
          rw [List.drop_succ_cons, ih, littleEndian, Nat.mul_succ,
            Nat.add_comm (8 * count), Nat.pow_add, ← Nat.div_div_eq_div_mul,
            higher]

theorem littleEndian_mod (bytes : List UInt8) :
    littleEndian bytes % 2 ^ 8 = (bytes.getD 0 0).toNat := by
  cases bytes with
  | nil => rfl
  | cons byte rest =>
      have small := byte.toNat_lt
      simp only [littleEndian, List.getD_cons_zero]
      omega

theorem mod_div_mod (number size : Nat) {shift width : Nat}
    (inside : shift + size ≤ width) :
    number / 2 ^ shift % 2 ^ size =
      number % 2 ^ width / 2 ^ shift % 2 ^ size := by
  have split : 2 ^ width = 2 ^ shift * 2 ^ (width - shift) := by
    rw [← Nat.pow_add, Nat.add_sub_of_le (by omega)]
  have divides : 2 ^ size ∣ 2 ^ (width - shift) :=
    Nat.pow_dvd_pow 2 (by omega)
  rw [split, Nat.mod_mul_right_div_self, Nat.mod_mod_of_dvd _ divides]

theorem bitsAt_drop (bytes : List UInt8) (count offset size : Nat) :
    bitsAt bytes (8 * count + offset) size =
      bitsAt (bytes.drop count) offset size := by
  rw [bitsAt, bitsAt, Nat.pow_add, ← Nat.div_div_eq_div_mul, littleEndian_drop]

/-- Bits within one byte -/
theorem bitsAt_byte (bytes : List UInt8) (index shift size : Nat)
    (inside : shift + size ≤ 8) :
    bitsAt bytes (8 * index + shift) size =
      (bytes.getD index 0).toNat / 2 ^ shift % 2 ^ size := by
  have first : (bytes.drop index).getD 0 0 = bytes.getD index 0 := by
    simp [List.getD_eq_getElem?_getD]
  rw [bitsAt_drop, bitsAt, mod_div_mod _ _ inside, littleEndian_mod, first]

/-- A whole byte -/
theorem bitsAt_wholeByte (bytes : List UInt8) {offset : Nat} (index : Nat)
    (aligned : offset = 8 * index) :
    bitsAt bytes offset 8 = (bytes.getD index 0).toNat := by
  have small := (bytes.getD index 0).toNat_lt
  have byte := bitsAt_byte bytes index 0 8 (by decide)
  rw [Nat.pow_zero, Nat.div_one, Nat.mod_eq_of_lt small] at byte
  rw [aligned]
  exact byte

/-! ## The values of a field -/

section Values

variable {field : Field} {payload : List UInt8} {index : Nat}

theorem Field.value_of_nonneg (nonnegative : 0 ≤ field.logicalMinimum) :
    field.value payload index =
      bitsAt payload (field.offset + index * field.size) field.size := by
  simp [Field.value, Int.not_lt.mpr nonnegative]

/-- A field of bytes -/
theorem Field.value_byte (nonnegative : 0 ≤ field.logicalMinimum)
    (byte : field.size = 8) (place : Nat)
    (aligned : field.offset + index * 8 = 8 * place) :
    field.value payload index = (payload.getD place 0).toNat := by
  rw [Field.value_of_nonneg nonnegative, byte,
    bitsAt_wholeByte payload place aligned]

/-- The controls of a field of single bits, named by one range -/
theorem Field.controls_bits (first : Nat)
    (data : field.constant = false ∧ field.variable)
    (nonnegative : 0 ≤ field.logicalMinimum) (single : field.size = 1)
    (range : field.usages = [(first, first + field.count - 1)]) :
    field.controls payload =
      (List.range field.count).map fun index =>
        (Usage.mk field.usagePage (first + index),
          (bitsAt payload (field.offset + index) 1 : Int)) := by
  rw [Field.controls, if_pos data]
  apply List.map_congr_left
  intro index member
  have inside : first + index ≤ first + field.count - 1 := by
    have := List.mem_range.mp member
    omega
  have named : field.usage index = ⟨field.usagePage, first + index⟩ := by
    simp [Field.usage, range, usageAt, inside]
  rw [named, Field.value_of_nonneg nonnegative, single, Nat.mul_one]

theorem usageAt_singles (ids : List Nat) (index : Nat) :
    usageAt (ids.map fun id => (id, id)) index = ids[index]? := by
  induction ids generalizing index with
  | nil => rfl
  | cons id rest ih =>
      cases index with
      | zero => simp [usageAt]
      | succ index => simp [usageAt, ih]

/-- The controls of a field whose usages are listed one by one -/
theorem Field.controls_listed (ids : List Nat)
    (data : field.constant = false ∧ field.variable)
    (listed : field.usages = ids.map fun id => (id, id))
    (counted : field.count = ids.length) :
    field.controls payload =
      ids.mapIdx fun index id =>
        (⟨field.usagePage, id⟩, field.value payload index) := by
  rw [Field.controls, if_pos data]
  apply List.ext_getElem
  · simp [counted]
  · intro index left right
    have inside : index < ids.length := by
      simpa [counted] using left
    simp [Field.usage, listed, usageAt_singles, inside]

theorem Field.controls_of_constant (constant : field.constant = true) :
    field.controls payload = [] := by
  simp [Field.controls, constant]

theorem Field.selected_of_constant (constant : field.constant = true) :
    field.selected payload = [] := by
  simp [Field.selected, constant]

theorem Field.controls_of_array (array : field.variable = false) :
    field.controls payload = [] := by
  simp [Field.controls, array]

theorem Field.selected_of_variable (ownBits : field.variable = true) :
    field.selected payload = [] := by
  simp [Field.selected, ownBits]

end Values

section Reports

variable {descriptor payload : List UInt8} {kind : Kind} {fields own : List Field}

theorem hostReads_withoutIds (parsed : parse descriptor = some fields)
    (plain : usesReportIds fields = false) (made : fieldsOf fields kind 0 = own)
    (long : payload.length = ((own.map Field.bits).sum + 7) / 8) :
    hostReads descriptor kind payload = some (readingOf own payload) := by
  simp [hostReads, parsed, read, plain, readPayload, reportBits, made, long]

end Reports

end HidDescriptor

end JetKvm
