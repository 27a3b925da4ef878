import Mathlib.Logic.Equiv.Defs
import Mathlib.Logic.Function.Basic
import Mathlib.Data.List.TakeWhile
import Mathlib.Data.List.Nodup

/-!
# Decoding JSON into Go values

What `encoding/json` documents of `Unmarshal`, on the tree of a value.  A value
of the wrong type is passed over and reported at the end; an error of an
`UnmarshalJSON` method ends the decoding.  What is stored until then stays.
-/

namespace JetKvm

namespace JsonDecoding

/-- Minus zero is no integer here, as it is another double than zero. -/
inductive Numeral where
  | integer (value : Int)
  | decimal (token : String)
  deriving DecidableEq, Repr

inductive Json where
  | null
  | bool (value : Bool)
  | number (numeral : Numeral)
  | string (value : String)
  | array (elements : List Json)
  | object (members : List (String × Json))
  deriving Repr

def Json.members : Json → List (String × Json)
  | .object members => members
  | _ => []

def isNull : Json → Bool
  | .null => true
  | _ => false

/-! ### Storing -/

/-- A value is decoded, passed over, or refused by a method of its target. -/
inductive Outcome where
  | fine | mistyped | refused
  deriving DecidableEq, Repr

def Outcome.and : Outcome → Outcome → Outcome
  | .fine, later => later
  | .mistyped, .refused => .refused
  | .mistyped, _ => .mistyped
  | .refused, _ => .refused

theorem Outcome.and_eq_fine {first later : Outcome} :
    first.and later = .fine ↔ first = .fine ∧ later = .fine := by
  cases first <;> cases later <;> decide

/-- What decoding one value does to its target -/
structure Storing (β : Type*) where
  outcome : Outcome
  update : β → β

namespace Storing

variable {β : Type*}

def nothing (outcome : Outcome) : Storing β := ⟨outcome, id⟩

def next (first later : Storing β) : Storing β :=
  if first.outcome = .refused then first
  else ⟨first.outcome.and later.outcome, later.update ∘ first.update⟩

/-- A new element is stored behind the others. -/
def appending (zero : β) (storing : Storing β) : Storing (List β) :=
  ⟨storing.outcome, fun stored => stored ++ [storing.update zero]⟩

theorem next_of_refused {first later : Storing β}
    (refused : first.outcome = .refused) : first.next later = first :=
  if_pos refused

theorem next_of_not_refused {first later : Storing β}
    (notRefused : first.outcome ≠ .refused) :
    first.next later =
      ⟨first.outcome.and later.outcome, later.update ∘ first.update⟩ :=
  if_neg notRefused

end Storing

abbrev Decoder (β : Type*) := Json → Storing β

namespace Decoder

variable {α β : Type*}

/-- The null value has no effect on a plain value. -/
def plain (read : Json → Option β) : Decoder β
  | .null => .nothing .fine
  | value =>
      match read value with
      | none => .nothing .mistyped
      | some stored => ⟨.fine, fun _ => stored⟩

def string : Decoder String :=
  plain fun
    | .string value => some value
    | _ => none

def bool : Decoder Bool :=
  plain fun
    | .bool value => some value
    | _ => none

/-- A number that is an integer within the bounds -/
def int (low high : Int) : Decoder Int :=
  plain fun
    | .number (.integer n) => if low ≤ n ∧ n ≤ high then some n else none
    | .number (.decimal token) => if token = "-0" then some 0 else none
    | _ => none

/-- There is no sign on an unsigned number. -/
def uint (high : Nat) : Decoder Nat :=
  plain fun
    | .number (.integer n) =>
        if 0 ≤ n ∧ n ≤ high then some n.toNat else none
    | _ => none

def number (read : Numeral → Option β) : Decoder β :=
  plain fun
    | .number numeral => read numeral
    | _ => none

/-- A target with a method `UnmarshalJSON`; `none` is its error. -/
def unmarshaler (unmarshalJSON : Json → Option (β → β)) : Decoder β := fun value =>
  match unmarshalJSON value with
  | none => .nothing .refused
  | some update => ⟨.fine, update⟩

/-- A nil pointer gets a new value to point to. -/
def pointer (zero : β) (decoder : Decoder β) : Decoder (Option β)
  | .null => ⟨.fine, fun _ => none⟩
  | value =>
      let storing := decoder value
      ⟨storing.outcome, fun old => some (storing.update (old.getD zero))⟩

/-- The elements one after another, appended to what is there -/
def elements (zero : β) (decoder : Decoder β) : List Json → Storing (List β)
  | [] => .nothing .fine
  | value :: rest =>
      ((decoder value).appending zero).next (elements zero decoder rest)

/-- A slice is reset to no elements first, and set to nil by null. -/
def slice (zero : β) (decoder : Decoder β) : Decoder (Option (List β))
  | .null => ⟨.fine, fun _ => none⟩
  | .array values =>
      let storing := elements zero decoder values
      ⟨storing.outcome, fun _ => some (storing.update [])⟩
  | _ => .nothing .mistyped

/-- Another type with the same content -/
def via (content : α ≃ β) (decoder : Decoder β) : Decoder α := fun value =>
  let storing := decoder value
  ⟨storing.outcome, fun target => content.symm (storing.update (content target))⟩

/-! ### Reading a value back -/

/-- The value is decoded, over what is there, to the result. -/
structure Reads (decoder : Decoder β) (value : Json) (base result : β) : Prop where
  fine : (decoder value).outcome = .fine
  stored : (decoder value).update base = result

theorem reads_string {text base : String} : string.Reads (.string text) base text :=
  ⟨rfl, rfl⟩

theorem reads_bool {value base : Bool} : bool.Reads (.bool value) base value :=
  ⟨rfl, rfl⟩

theorem reads_int {low high n base : Int} (inside : low ≤ n ∧ n ≤ high) :
    (int low high).Reads (.number (.integer n)) base n := by
  constructor <;> simp [int, plain, inside]

theorem reads_uint {high n base : Nat} (inside : n ≤ high) :
    (uint high).Reads (.number (.integer n)) base n := by
  constructor <;> simp [uint, plain, inside]

theorem reads_number {read : Numeral → Option β} {numeral : Numeral}
    {base value : β} (known : read numeral = some value) :
    (number read).Reads (.number numeral) base value := by
  constructor <;> simp [number, plain, known]

theorem reads_unmarshaler {unmarshalJSON : Json → Option (β → β)} {value : Json}
    {base : β} {update : β → β} (known : unmarshalJSON value = some update) :
    (unmarshaler unmarshalJSON).Reads value base (update base) := by
  constructor <;> simp [unmarshaler, known]

theorem Reads.via {content : α ≃ β} {decoder : Decoder β} {value : Json}
    {base result : α} (reads : decoder.Reads value (content base) (content result)) :
    (decoder.via content).Reads value base result where
  fine := reads.fine
  stored := (congrArg content.symm reads.stored).trans (content.symm_apply_apply _)

theorem reads_pointer {zero result : β} {decoder : Decoder β} {value : Json}
    {base : Option β} (notNull : isNull value = false)
    (reads : decoder.Reads value (base.getD zero) result) :
    (pointer zero decoder).Reads value base (some result) := by
  cases value with
  | null => cases notNull
  | _ => exact ⟨reads.fine, congrArg some reads.stored⟩

theorem elements_written {zero : β} {decoder : Decoder β} {json : β → Json}
    (values : List β)
    (reads : ∀ value ∈ values, decoder.Reads (json value) zero value)
    (stored : List β) :
    (elements zero decoder (values.map json)).outcome = .fine ∧
      (elements zero decoder (values.map json)).update stored =
        stored ++ values := by
  induction values generalizing stored with
  | nil => exact ⟨rfl, (List.append_nil _).symm⟩
  | cons value rest ih =>
      rw [List.forall_mem_cons] at reads
      obtain ⟨fine, appended⟩ := ih reads.2 (stored ++ [value])
      have fineHere : ((decoder (json value)).appending zero).outcome = .fine :=
        reads.1.fine
      rw [List.map_cons, elements, Storing.next_of_not_refused (by simp [fineHere])]
      refine ⟨Outcome.and_eq_fine.mpr ⟨fineHere, fine⟩, ?_⟩
      dsimp only [Function.comp_apply, Storing.appending]
      rw [reads.1.stored, appended, List.append_assoc, List.singleton_append]

theorem reads_slice {zero : β} {decoder : Decoder β} {json : β → Json}
    {values : List β} {base : Option (List β)}
    (reads : ∀ value ∈ values, decoder.Reads (json value) zero value) :
    (slice zero decoder).Reads (.array (values.map json)) base (some values) :=
  have ⟨fine, appended⟩ := elements_written values reads []
  ⟨fine, congrArg some appended⟩

end Decoder

/-! ### Objects -/

/-- The long s and the Kelvin sign fold to letters of ASCII. -/
def foldRune (char : Char) : Char :=
  if char.toNat = 0x17f then 's' else if char.toNat = 0x212a then 'k'
  else char.toLower

def foldName (name : String) : List Char :=
  name.toList.map foldRune

/-- A struct: its fields in order, the name of each and how it is decoded -/
structure Record {Key : Type} (β : Key → Type) where
  keys : List Key
  tag : Key → String
  decoder : ∀ key, Decoder (β key)

namespace Record

variable {Key : Type} [DecidableEq Key] {β : Key → Type} (record : Record β)

/-- The same name if there is one, or else one that differs in case only -/
def keyOf (name : String) : Option Key :=
  (record.keys.find? fun key => record.tag key = name).or
    (record.keys.find? fun key => foldName (record.tag key) = foldName name)

def storeAt (key : Key) (value : Json) : Storing (∀ key, β key) :=
  let storing := record.decoder key value
  ⟨storing.outcome,
    fun target => Function.update target key (storing.update (target key))⟩

def storeMembers : List (String × Json) → Storing (∀ key, β key)
  | [] => .nothing .fine
  | (name, value) :: rest =>
      match record.keyOf name with
      | none => storeMembers rest
      | some key => (record.storeAt key value).next (storeMembers rest)

def decode : Decoder (∀ key, β key)
  | .null => .nothing .fine
  | .object members => record.storeMembers members
  | _ => .nothing .mistyped

/-! ### What a field is left with -/

/-- The members that are stored, the first that is refused included -/
def reached : List (String × Json) → List (Key × Json)
  | [] => []
  | (name, value) :: rest =>
      match record.keyOf name with
      | none => reached rest
      | some key =>
          if (record.decoder key value).outcome = .refused then [(key, value)]
          else (key, value) :: reached rest

/-- The values for one field among them -/
def valuesAt (key : Key) (members : List (String × Json)) : List Json :=
  (record.reached members).filterMap fun member =>
    if member.1 = key then some member.2 else none

/-- The values are stored in the field one after another. -/
def settle (key : Key) (start : β key) (values : List Json) : β key :=
  values.foldl (fun stored value => (record.decoder key value).update stored) start

theorem outcome_storeAt (key : Key) (value : Json) :
    (record.storeAt key value).outcome = (record.decoder key value).outcome :=
  rfl

/-- Storing one member settles its own field. -/
theorem update_storeAt (stored key : Key) (value : Json)
    (target : ∀ key, β key) :
    (record.storeAt stored value).update target key =
      record.settle key (target key) (if stored = key then [value] else []) := by
  by_cases same : stored = key
  · subst same
    rw [if_pos rfl]
    exact Function.update_self ..
  · rw [if_neg same]
    exact Function.update_of_ne (Ne.symm same) ..

omit [DecidableEq Key] in
theorem settle_append (key : Key) (start : β key) (values more : List Json) :
    record.settle key start (values ++ more) =
      record.settle key (record.settle key start values) more :=
  List.foldl_append

theorem valuesAt_of_none {name : String} (unknown : record.keyOf name = none)
    (key : Key) (value : Json) (rest : List (String × Json)) :
    record.valuesAt key ((name, value) :: rest) = record.valuesAt key rest := by
  unfold valuesAt
  rw [reached, unknown]

theorem valuesAt_of_some {name : String} {stored : Key}
    (known : record.keyOf name = some stored) (key : Key) (value : Json)
    (rest : List (String × Json)) :
    record.valuesAt key ((name, value) :: rest) =
      (if stored = key then [value] else []) ++
        if (record.decoder stored value).outcome = .refused then []
        else record.valuesAt key rest := by
  unfold valuesAt
  rw [reached, known]
  by_cases same : stored = key <;> by_cases refused :
    (record.decoder stored value).outcome = .refused <;> simp [same, refused]

theorem update_storeMembers (members : List (String × Json))
    (target : ∀ key, β key) (key : Key) :
    (record.storeMembers members).update target key =
      record.settle key (target key) (record.valuesAt key members) := by
  induction members generalizing target with
  | nil => rfl
  | cons member rest ih =>
      obtain ⟨name, value⟩ := member
      unfold storeMembers
      cases found : record.keyOf name with
      | none => rw [valuesAt_of_none record found, ih]
      | some stored =>
          rw [valuesAt_of_some record found, settle_append, ← update_storeAt]
          rw [← record.outcome_storeAt]
          by_cases refused : (record.storeAt stored value).outcome = .refused
          · rw [if_pos refused]
            dsimp only
            rw [Storing.next_of_refused refused]
            rfl
          · rw [if_neg refused, ← ih]
            dsimp only
            rw [Storing.next_of_not_refused refused]
            rfl

/-- What decoding a value leaves in a field -/
theorem update_decode (value : Json) (target : ∀ key, β key) (key : Key) :
    (record.decode value).update target key =
      record.settle key (target key) (record.valuesAt key value.members) := by
  cases value with
  | object members => exact record.update_storeMembers members target key
  | _ => rfl

/-- The values for one field in several values of the struct -/
def valuesIn (key : Key) (values : List Json) : List Json :=
  values.flatMap fun value => record.valuesAt key value.members

/-- The values leave every field as it was. -/
def Restores (values : List Json) (start : ∀ key, β key) : Prop :=
  ∀ key, record.settle key (start key) (record.valuesIn key values) = start key

theorem foldl_decode (values : List Json) (target : ∀ key, β key) (key : Key) :
    values.foldl (fun target value => (record.decode value).update target) target
        key =
      record.settle key (target key) (record.valuesIn key values) := by
  induction values generalizing target with
  | nil => rfl
  | cons value rest ih =>
      rw [List.foldl_cons, ih, update_decode, ← settle_append]
      rfl

theorem foldl_via {α : Type} (content : α ≃ ∀ key, β key) (values : List Json)
    (object : α) :
    values.foldl
        (fun stored value => (record.decode.via content value).update stored)
        object =
      content.symm (values.foldl
        (fun target value => (record.decode value).update target)
        (content object)) := by
  induction values generalizing object with
  | nil => exact (content.symm_apply_apply object).symm
  | cons value rest ih =>
      have first : content ((record.decode.via content value).update object) =
          (record.decode value).update (content object) :=
        content.apply_symm_apply _
      rw [List.foldl_cons, ih, List.foldl_cons, first]

/-- An object is as it was after some values if its fields are. -/
theorem foldl_via_eq_iff {α : Type} (content : α ≃ ∀ key, β key)
    (values : List Json) (object : α) :
    values.foldl
        (fun stored value => (record.decode.via content value).update stored)
        object = object ↔
      record.Restores values (content object) := by
  rw [foldl_via, Equiv.symm_apply_eq]
  constructor
  · intro same key
    rw [← foldl_decode, same]
  · intro restores
    funext key
    rw [foldl_decode]
    exact restores key

/-! ### Reading back what was written -/

/-- The members for the fields that are not left out -/
def write (json : Key → Option Json) : Json :=
  .object (record.keys.filterMap fun key => (json key).map (record.tag key, ·))

/-- Every field has a place of its own, and is found by its name. -/
structure Lawful : Prop where
  nodup : record.keys.Nodup
  complete : ∀ key, key ∈ record.keys
  found : ∀ key, record.keyOf (record.tag key) = some key

/-- A field that was written is read; one that was left out stays. -/
def ReadsAs (json : Key → Option Json) (base result : ∀ key, β key) : Prop :=
  ∀ key, match json key with
    | none => result key = base key
    | some value => (record.decoder key).Reads value (base key) (result key)

variable {record}

omit [DecidableEq Key] in
theorem mem_keys_of_keyOf {name : String} {key : Key}
    (found : record.keyOf name = some key) : key ∈ record.keys := by
  rcases Option.or_eq_some_iff.mp found with exactly | ⟨-, folded⟩
  · exact List.mem_of_find?_eq_some exactly
  · exact List.mem_of_find?_eq_some folded

omit [DecidableEq Key] in
theorem Lawful.of_found (nodup : record.keys.Nodup)
    (found : ∀ key, record.keyOf (record.tag key) = some key) : record.Lawful :=
  ⟨nodup, fun key => mem_keys_of_keyOf (found key), found⟩

theorem reads_keys (found : ∀ key, record.keyOf (record.tag key) = some key)
    {json : Key → Option Json} {base result : ∀ key, β key}
    (reads : record.ReadsAs json base result) (keys : List Key)
    (nodup : keys.Nodup) (target : ∀ key, β key)
    (same : ∀ key ∈ keys, target key = base key) :
    let storing := record.storeMembers
      (keys.filterMap fun key => (json key).map (record.tag key, ·))
    storing.outcome = .fine ∧ ∀ key, storing.update target key =
      if key ∈ keys then result key else target key := by
  induction keys generalizing target with
  | nil => exact ⟨rfl, fun _ => rfl⟩
  | cons first rest ih =>
      obtain ⟨new, nodup⟩ := List.nodup_cons.mp nodup
      have here := reads first
      cases written : json first with
      | none =>
          rw [written] at here
          simp only [List.filterMap_cons, written, Option.map_none]
          obtain ⟨fine, updated⟩ := ih nodup target
            fun key inRest => same key (List.mem_cons_of_mem _ inRest)
          refine ⟨fine, fun key => (updated key).trans ?_⟩
          by_cases atFirst : key = first
          · subst atFirst
            rw [if_neg new, if_pos List.mem_cons_self, here]
            exact same key List.mem_cons_self
          · simp [atFirst]
      | some value =>
          rw [written] at here
          obtain ⟨fineHere, stored⟩ := here
          simp only [List.filterMap_cons, written, Option.map_some]
          unfold storeMembers
          rw [found first]
          dsimp only
          have notRefused : (record.storeAt first value).outcome ≠ .refused := by
            rw [outcome_storeAt, fineHere]
            decide
          rw [Storing.next_of_not_refused notRefused]
          obtain ⟨fine, updated⟩ := ih nodup
            ((record.storeAt first value).update target) (by
              intro key inRest
              have other : first ≠ key := fun same => new (same ▸ inRest)
              rw [update_storeAt, if_neg other]
              exact same key (List.mem_cons_of_mem _ inRest))
          refine ⟨Outcome.and_eq_fine.mpr ⟨fineHere, fine⟩, fun key => ?_⟩
          refine (updated key).trans ?_
          by_cases atFirst : key = first
          · subst atFirst
            rw [if_neg new, if_pos List.mem_cons_self, update_storeAt, if_pos rfl,
              same key List.mem_cons_self]
            exact stored
          · rw [update_storeAt, if_neg (Ne.symm atFirst)]
            simp [atFirst, settle]

theorem reads_write (lawful : record.Lawful) {json : Key → Option Json}
    {base result : ∀ key, β key} (reads : record.ReadsAs json base result) :
    record.decode.Reads (record.write json) base result := by
  obtain ⟨fine, updated⟩ := reads_keys lawful.found reads record.keys lawful.nodup
    base fun _ _ => rfl
  refine ⟨fine, funext fun key => (updated key).trans ?_⟩
  exact if_pos (lawful.complete key)

end Record

/-! ### A pointer that was copied -/

/-- The pointee is shared with the original until the copy is set to another. -/
inductive Pointer (β : Type) where
  | shared (object : β)
  | apart (object own : Option β)

namespace Pointer

variable {β : Type}

/-- A copy of the pointer -/
def copy : Option β → Pointer β
  | none => .apart none none
  | some object => .shared object

/-- What the original points to -/
def original : Pointer β → Option β
  | .shared object => some object
  | .apart object _ => object

/-- What the copy points to -/
def loaded : Pointer β → Option β
  | .shared object => some object
  | .apart _ own => own

def decode (zero : β) (decoder : Decoder β) : Decoder (Pointer β)
  | .null => ⟨.fine, fun pointer => .apart pointer.original none⟩
  | value =>
      let storing := decoder value
      ⟨storing.outcome, fun
        | .shared object => .shared (storing.update object)
        | .apart object own =>
            .apart object (some (storing.update (own.getD zero)))⟩

variable {zero : β} {decoder : Decoder β}

theorem reads_shared {value : Json} {object result : β}
    (notNull : isNull value = false) (reads : decoder.Reads value object result) :
    (decode zero decoder).Reads value (.shared object) (.shared result) := by
  cases value with
  | null => cases notNull
  | _ => exact ⟨reads.fine, congrArg Pointer.shared reads.stored⟩

/-- The values that are stored in the object of the original -/
def throughOriginal (values : List Json) : List Json :=
  values.takeWhile fun value => !isNull value

theorem original_apart (values : List Json) (object own : Option β) :
    (values.foldl (fun pointer value => (decode zero decoder value).update pointer)
      (.apart object own)).original = object := by
  induction values generalizing own with
  | nil => rfl
  | cons value rest ih =>
      cases value <;> exact ih _

/-- What the values leave in the object of the original -/
theorem original_settled (values : List Json) (object : β) :
    (values.foldl (fun pointer value => (decode zero decoder value).update pointer)
      (.shared object)).original =
      some ((throughOriginal values).foldl
        (fun stored value => (decoder value).update stored) object) := by
  induction values generalizing object with
  | nil => rfl
  | cons value rest ih =>
      cases value with
      | null => exact original_apart rest (some object) none
      | _ => exact ih _

end Pointer

end JsonDecoding

end JetKvm
