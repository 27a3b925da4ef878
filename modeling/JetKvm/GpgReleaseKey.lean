import JetKvm.LabelledRuns
import Mathlib.Data.List.Basic
import Mathlib.Tactic.ByContra

/-!
# The key that verifies releases

Translation of `internal/ota/gpg.go`.  Each lock section is a step of its own, and
the requests to the keyservers touch no shared state, so that those of one call
are one step.  The OpenPGP library is a parameter.
-/

namespace JetKvm

namespace Gpg

open LabelledRuns

abbrev Bytes := List UInt8

/-- The operations of the OpenPGP library; a list that was read may have entries
that are nil, and a key without a primary key has no fingerprint. -/
structure OpenPGP where
  Entity : Type
  fingerprint : Entity → Option Bytes
  readArmoredKeyRing : Bytes → Except String (List (Option Entity))
  checkDetachedSignature : List Entity → Bytes → Bytes → Option String

/-! ### Fingerprints -/

def rootKeyFingerprint : List Char :=
  "AF5A36A993D828FEFE7C18C2D1B9856C26A79E95".toList

/-- `NewGPGVerifier` sets it, and nothing changes it. -/
def rootKeyFP : List Char := rootKeyFingerprint

def isSpace (c : Char) : Bool :=
  c = ' ' || (9 ≤ c.toNat && c.toNat ≤ 13)

def trimSpace (text : List Char) : List Char :=
  ((text.dropWhile isSpace).reverse.dropWhile isSpace).reverse

def trimPrefix (start text : List Char) : List Char :=
  if start.isPrefixOf text then text.drop start.length else text

def normalizeFingerprint (fp : List Char) : List Char :=
  let fp := (trimSpace fp).map Char.toUpper
  (trimPrefix ['0', 'X'] fp).filter (· ≠ ' ')

/-- `hex.EncodeToString` -/
def encodeToString (bytes : Bytes) : List Char :=
  bytes.flatMap fun byte =>
    [Nat.digitChar (byte.toNat / 16), Nat.digitChar (byte.toNat % 16)]

/-- The bytes of the pinned fingerprint -/
def rootKey : Bytes :=
  [0xAF, 0x5A, 0x36, 0xA9, 0x93, 0xD8, 0x28, 0xFE, 0xFE, 0x7C, 0x18, 0xC2, 0xD1,
    0xB9, 0x85, 0x6C, 0x26, 0xA7, 0x9E, 0x95]

/-! ### The keyservers -/

def keyservers : List (String → String) :=
  [fun fingerprint =>
      "https://keys.openpgp.org/vks/v1/by-fingerprint/" ++ fingerprint,
    fun fingerprint =>
      "https://keyserver.ubuntu.com/pks/lookup?op=get&search=0x" ++ fingerprint]

/-- Twenty-four hours in nanoseconds -/
def keyCacheTTL : Nat := 86400000000000

/-- What comes of a request: it cannot be made, it fails, which it also does when
it takes too long, or there is a response with a body that may be unreadable. -/
inductive Reply where
  | notCreated (err : String)
  | failed (err : String)
  | response (statusCode : Nat) (body : Except String Bytes)

/-- The error of the context each time it is looked at, and the reply of each
server -/
structure World where
  contextErr : Nat → Option String
  reply : Nat → Reply

section Fetching

variable (pgp : OpenPGP)

/-- The entity has the expected fingerprint. -/
def expectedEntity (expected : List Char) : Option pgp.Entity → Option pgp.Entity
  | none => none
  | some entity =>
      match pgp.fingerprint entity with
      | none => none
      | some fingerprint =>
          if normalizeFingerprint (encodeToString fingerprint) = expected then
            some entity
          else none

def parseAndValidateKeyring (key : Bytes) : Except String (List pgp.Entity) :=
  match pgp.readArmoredKeyRing key with
  | .error err => .error ("invalid OpenPGP key: " ++ err)
  | .ok keyring =>
      if keyring.length = 0 then
        .error "invalid OpenPGP key: keyring is empty"
      else
        let expected := normalizeFingerprint rootKeyFP
        match keyring.findSome? (expectedEntity pgp expected) with
        | some entity => .ok [entity]
        | none =>
            .error ("fetched key fingerprint does not match expected fingerprint "
              ++ String.ofList expected)

def fetchFromSingleKeyserver : Reply → Except String (Bytes × List pgp.Entity)
  | .notCreated err => .error ("error creating request: " ++ err)
  | .failed err => .error ("error fetching key: " ++ err)
  | .response statusCode body =>
      if statusCode ≠ 200 then
        .error ("keyserver returned status " ++ toString statusCode)
      else
        match body with
        | .error err => .error ("error reading response: " ++ err)
        | .ok key =>
            match parseAndValidateKeyring pgp key with
            | .error err => .error err
            | .ok keyring => .ok (key, keyring)

/-- The loop over the servers from the given one on, with the errors so far -/
def fetchFromKeyservers (fingerprint : String) (world : World) :
    Nat → List (String → String) → List String →
      Except String (Bytes × List pgp.Entity)
  | i, [], errors =>
      match world.contextErr i with
      | some err =>
          .error ("key fetch cancelled after trying all servers: " ++ err)
      | none =>
          .error ("all keyservers failed: [" ++ " ".intercalate errors ++ "]")
  | i, serverTemplate :: serverTemplates, errors =>
      match world.contextErr i with
      | some err => .error ("key fetch cancelled: " ++ err)
      | none =>
          match fetchFromSingleKeyserver pgp (world.reply i) with
          | .ok found => .ok found
          | .error err =>
              fetchFromKeyservers fingerprint world (i + 1) serverTemplates
                (errors ++ [serverTemplate fingerprint ++ ": " ++ err])

end Fetching

/-! ### Calls that interleave -/

/-- `answeredAt` is when the answer with the cached key came. -/
structure GPGVerifier (Entity : Type) where
  cachedKey : Option Bytes := none
  cachedKeyTime : Nat := 0
  keyring : Option (List Entity) := none
  answeredAt : Nat := 0

/-- The function that was called -/
inductive Kind where
  | fetchPublicKey
  | verifySignature (signature data : Bytes)
  | verifySignatureFromFile (signature : Bytes) (filePath : String)

/-- What a call does next: look into the cache, ask the keyservers, store what was
found, read the key ring, check the signature with it; or what it has returned -/
inductive Stage (Entity : Type) where
  | checking
  | fetching
  | storing (key : Bytes) (keyring : List Entity) (answeredAt : Nat)
  | reading
  | verifying (keyring : List Entity) (answeredAt storedAt : Nat)
  | fetched (key : Except String Bytes)
  | verified (err : Option String)

structure Call (Entity : Type) where
  kind : Kind
  began : Nat
  stage : Stage Entity := .checking

/-- `answers` are the keys that keyservers have sent and that were found to be
valid, with the times. -/
structure State (Entity : Type) where
  now : Nat := 0
  verifier : GPGVerifier Entity := {}
  calls : List (Call Entity) := []
  answers : List (Nat × Bytes) := []

/-- The next step of a call -/
inductive Move where
  | checkCache
  | fetchFromKeyservers (world : World)
  | updateMemoryCache
  | readKeyring
  | checkDetachedSignature (file : Except String Bytes)

/-- Time passes, a call begins, or one takes its next step. -/
inductive Label where
  | wait (nanoseconds : Nat)
  | begin (kind : Kind)
  | take (id : Nat) (move : Move)

/-- What follows when `FetchPublicKey` returns -/
def Call.returns {Entity : Type} (call : Call Entity) :
    Except String Bytes → Stage Entity
  | .ok key =>
      match call.kind with
      | .fetchPublicKey => .fetched (.ok key)
      | _ => .reading
  | .error err =>
      match call.kind with
      | .fetchPublicKey => .fetched (.error err)
      | _ => .verified (some ("failed to fetch public key: " ++ err))

/-- The cached key, if it is still fresh -/
def GPGVerifier.fresh {Entity : Type} (g : GPGVerifier Entity) (now : Nat) :
    Option Bytes :=
  match g.cachedKey with
  | some key => if now < g.cachedKeyTime + keyCacheTTL then some key else none
  | none => none

def State.setStage {Entity : Type} (state : State Entity) (id : Nat)
    (call : Call Entity) (stage : Stage Entity) : State Entity :=
  { state with calls := state.calls.set id { call with stage := stage } }

section Steps

variable (pgp : OpenPGP)

/-- The signature check, of the data or of the file -/
def checked (keyring : List pgp.Entity) (file : Except String Bytes) :
    Kind → Option String
  | .fetchPublicKey => none
  | .verifySignature signature data =>
      (pgp.checkDetachedSignature keyring data signature).map
        ("signature verification failed: " ++ ·)
  | .verifySignatureFromFile signature _ =>
      match file with
      | .error err => some ("failed to open file for verification: " ++ err)
      | .ok data =>
          (pgp.checkDetachedSignature keyring data signature).map
            ("signature verification failed: " ++ ·)

def advance (state : State pgp.Entity) (id : Nat) (call : Call pgp.Entity)
    (move : Move) : Option (State pgp.Entity) :=
  match move, call.stage with
  | .checkCache, .checking =>
      if rootKeyFP = [] then
        some (state.setStage id call
          (call.returns (.error "root key fingerprint not configured")))
      else
        match state.verifier.fresh state.now with
        | some key => some (state.setStage id call (call.returns (.ok key)))
        | none => some (state.setStage id call .fetching)
  | .fetchFromKeyservers world, .fetching =>
      match fetchFromKeyservers pgp (String.ofList rootKeyFP) world 0
          keyservers [] with
      | .error err => some (state.setStage id call (call.returns (.error err)))
      | .ok (key, keyring) =>
          some { state.setStage id call (.storing key keyring state.now) with
            answers := state.answers ++ [(state.now, key)] }
  | .updateMemoryCache, .storing key keyring answeredAt =>
      some { state.setStage id call (call.returns (.ok key)) with
        verifier := ⟨some key, state.now, some keyring, answeredAt⟩ }
  | .readKeyring, .reading =>
      match state.verifier.keyring with
      | none =>
          some (state.setStage id call
            (.verified (some "keyring not initialized")))
      | some keyring =>
          some (state.setStage id call (.verifying keyring
            state.verifier.answeredAt state.verifier.cachedKeyTime))
  | .checkDetachedSignature file, .verifying keyring _ _ =>
      some (state.setStage id call
        (.verified (checked pgp keyring file call.kind)))
  | _, _ => none

def step (state : State pgp.Entity) : Label → Option (State pgp.Entity)
  | .wait nanoseconds => some { state with now := state.now + nanoseconds }
  | .begin kind =>
      some { state with calls := state.calls ++ [⟨kind, state.now, .checking⟩] }
  | .take id move =>
      state.calls[id]?.bind fun call => advance pgp state id call move

end Steps

/-! ### What should hold of the calls -/

section Properties

variable {pgp : OpenPGP}

/-- The key was found to be valid with the ring. -/
def Validated (key : Bytes) (keyring : List pgp.Entity) : Prop :=
  parseAndValidateKeyring pgp key = .ok keyring

/-- The ring of the call is one entity with the pinned fingerprint, out of an
answer that was stored less than a day before the call began, if not later. -/
def Trusted (state : State pgp.Entity) (call : Call pgp.Entity) : Prop :=
  ∃ entity key answeredAt storedAt,
    call.stage = .verifying [entity] answeredAt storedAt ∧
      pgp.fingerprint entity = some rootKey ∧
      (answeredAt, key) ∈ state.answers ∧ Validated key [entity] ∧
      answeredAt ≤ storedAt ∧ call.began < storedAt + keyCacheTTL

/-- Every signature is checked with a trusted ring. -/
def ChecksTrusted (state : State pgp.Entity) : Label → Prop
  | .take id (.checkDetachedSignature _) =>
      ∃ call, state.calls[id]? = some call ∧ Trusted state call
  | _ => True

/-- The cache is changed only by a call that stores an answer that was found to be
valid. -/
def StoresValidated (state : State pgp.Entity) (label : Label) : Prop :=
  ∀ next, step pgp state label = some next → next.verifier ≠ state.verifier →
    ∃ id call key keyring answeredAt,
      label = .take id .updateMemoryCache ∧ state.calls[id]? = some call ∧
        call.stage = .storing key keyring answeredAt ∧
        (answeredAt, key) ∈ state.answers ∧ Validated key keyring

/-- The answer that the signature is checked with came no more than a day before
the call began. -/
def ChecksRecent (state : State pgp.Entity) : Label → Prop
  | .take id (.checkDetachedSignature _) =>
      ∃ call keyring answeredAt storedAt, state.calls[id]? = some call ∧
        call.stage = .verifying keyring answeredAt storedAt ∧
        call.began ≤ answeredAt + keyCacheTTL
  | _ => True

end Properties

/-! ### Fingerprints that agree -/

section Fingerprints

/-- An upper-case hexadecimal digit -/
def upperDigit (n : Nat) : Char := (Nat.digitChar n).toUpper

theorem upperDigit_injective : ∀ m < 16, ∀ n < 16,
    upperDigit m = upperDigit n → m = n := by
  decide

theorem digitChar_spec : ∀ n < 16, isSpace (Nat.digitChar n) = false ∧
    upperDigit n ≠ 'X' ∧ upperDigit n ≠ ' ' := by
  decide

theorem exists_digitChar {bytes : Bytes} {c : Char}
    (present : c ∈ encodeToString bytes) : ∃ n < 16, c = Nat.digitChar n := by
  obtain ⟨byte, -, digit⟩ := List.mem_flatMap.mp present
  have small := byte.toNat_lt
  rcases List.mem_cons.mp digit with rfl | last
  · exact ⟨byte.toNat / 16, by omega, rfl⟩
  · exact ⟨byte.toNat % 16, by omega, List.mem_singleton.mp last⟩

theorem dropWhile_eq_self {text : List Char}
    (solid : ∀ c ∈ text, isSpace c = false) : text.dropWhile isSpace = text := by
  cases text with
  | nil => rfl
  | cons c text =>
      have first : isSpace c = false := solid c List.mem_cons_self
      rw [List.dropWhile_cons_of_neg (by simp [first])]

theorem trimSpace_eq_self {text : List Char}
    (solid : ∀ c ∈ text, isSpace c = false) : trimSpace text = text := by
  rw [trimSpace, dropWhile_eq_self solid, dropWhile_eq_self, List.reverse_reverse]
  intro c present
  exact solid c (List.mem_reverse.mp present)

/-- Of the text of a fingerprint only the case is normalised. -/
theorem normalizeFingerprint_encodeToString (bytes : Bytes) :
    normalizeFingerprint (encodeToString bytes) =
      (encodeToString bytes).map Char.toUpper := by
  have upper : ∀ c ∈ (encodeToString bytes).map Char.toUpper,
      c ≠ 'X' ∧ c ≠ ' ' := by
    intro c present
    obtain ⟨digit, isDigit, rfl⟩ := List.mem_map.mp present
    obtain ⟨n, small, rfl⟩ := exists_digitChar isDigit
    exact (digitChar_spec n small).2
  have solid : ∀ c ∈ encodeToString bytes, isSpace c = false := by
    intro c present
    obtain ⟨n, small, rfl⟩ := exists_digitChar present
    exact (digitChar_spec n small).1
  rw [normalizeFingerprint, trimSpace_eq_self solid, trimPrefix, if_neg]
  · apply List.filter_eq_self.mpr
    intro c present
    simpa using (upper c present).2
  · intro starts
    obtain ⟨rest, equal⟩ := List.isPrefixOf_iff_prefix.mp starts
    have present : 'X' ∈ (encodeToString bytes).map Char.toUpper := by
      rw [← equal]
      simp
    exact (upper 'X' present).1 rfl

theorem encodeToString_injective {first second : Bytes}
    (same : (encodeToString first).map Char.toUpper =
      (encodeToString second).map Char.toUpper) : first = second := by
  induction first generalizing second with
  | nil =>
      cases second with
      | nil => rfl
      | cons byte bytes => simp [encodeToString] at same
  | cons byte bytes ih =>
      cases second with
      | nil => simp [encodeToString] at same
      | cons other others =>
          simp only [encodeToString, List.flatMap_cons, List.map_cons,
            List.cons_append, List.nil_append, List.cons.injEq] at same
          obtain ⟨high, low, rest⟩ := same
          have small := byte.toNat_lt
          have otherSmall := other.toNat_lt
          have highs := upperDigit_injective _ (by omega) _ (by omega) high
          have lows := upperDigit_injective _ (by omega) _ (by omega) low
          have equal : byte = other := by
            apply UInt8.toNat_inj.mp
            omega
          rw [equal, ih rest]

theorem normalizeFingerprint_eq_iff {bytes : Bytes} :
    normalizeFingerprint (encodeToString bytes) =
      normalizeFingerprint rootKeyFP ↔ bytes = rootKey := by
  have pinned : normalizeFingerprint rootKeyFP =
      (encodeToString rootKey).map Char.toUpper := by decide
  rw [pinned, normalizeFingerprint_encodeToString]
  constructor
  · exact encodeToString_injective
  · rintro rfl
    rfl

end Fingerprints

/-! ### What the keyservers are good for -/

section Answers

variable {pgp : OpenPGP}

theorem expectedEntity_eq_some_iff {present : Option pgp.Entity}
    {entity : pgp.Entity} :
    expectedEntity pgp (normalizeFingerprint rootKeyFP) present = some entity ↔
      present = some entity ∧ pgp.fingerprint entity = some rootKey := by
  cases present with
  | none => simp [expectedEntity]
  | some other =>
      unfold expectedEntity
      cases fingerprint : pgp.fingerprint other with
      | none =>
          simp only [fingerprint]
          refine iff_of_false nofun ?_
          rintro ⟨⟨rfl⟩, has⟩
          exact absurd (fingerprint.symm.trans has) nofun
      | some bytes =>
          simp only [fingerprint]
          rw [Option.ite_none_right_eq_some, normalizeFingerprint_eq_iff]
          constructor
          · rintro ⟨rfl, ⟨rfl⟩⟩
            exact ⟨rfl, fingerprint⟩
          · rintro ⟨⟨rfl⟩, has⟩
            exact ⟨Option.some.inj (fingerprint.symm.trans has), rfl⟩

/-- A valid answer gives one entity, with the pinned fingerprint. -/
theorem Validated.pinned {key : Bytes} {keyring : List pgp.Entity}
    (validated : Validated key keyring) :
    ∃ entity, keyring = [entity] ∧ pgp.fingerprint entity = some rootKey := by
  unfold Validated parseAndValidateKeyring at validated
  split at validated
  · cases validated
  · split at validated
    · cases validated
    · dsimp only at validated
      split at validated
      · rename_i entity found
        cases validated
        obtain ⟨present, -, matched⟩ := List.exists_of_findSome?_eq_some found
        exact ⟨entity, rfl, (expectedEntity_eq_some_iff.mp matched).2⟩
      · cases validated

/-- The body holds the key with the pinned fingerprint. -/
def HoldsRootKey (pgp : OpenPGP) (body : Bytes) : Prop :=
  ∃ keyring entity, pgp.readArmoredKeyRing body = .ok keyring ∧
    some entity ∈ keyring ∧ pgp.fingerprint entity = some rootKey

theorem HoldsRootKey.validated {body : Bytes} (holds : HoldsRootKey pgp body) :
    ∃ keyring, @Validated pgp body keyring := by
  obtain ⟨keyring, entity, read, present, pinned⟩ := holds
  have nonempty : keyring.length ≠ 0 := by
    rw [Ne, List.length_eq_zero_iff]
    exact List.ne_nil_of_mem present
  have found : (keyring.findSome?
      (expectedEntity pgp (normalizeFingerprint rootKeyFP))).isSome := by
    rw [List.findSome?_isSome_iff]
    exact ⟨some entity, present,
      Option.isSome_iff_exists.mpr ⟨entity,
        expectedEntity_eq_some_iff.mpr ⟨rfl, pinned⟩⟩⟩
  obtain ⟨first, isFirst⟩ := Option.isSome_iff_exists.mp found
  refine ⟨[first], ?_⟩
  unfold Validated parseAndValidateKeyring
  simp only [read, if_neg nonempty, isFirst]

theorem validated_of_single {reply : Reply} {key : Bytes}
    {keyring : List pgp.Entity}
    (fetched : fetchFromSingleKeyserver pgp reply = .ok (key, keyring)) :
    Validated key keyring := by
  unfold fetchFromSingleKeyserver at fetched
  split at fetched
  · cases fetched
  · cases fetched
  · split at fetched
    · cases fetched
    · split at fetched
      · cases fetched
      · split at fetched
        · cases fetched
        · rename_i validated
          cases fetched
          exact validated

theorem validated_of_fetch {fingerprint : String} {world : World} {i : Nat}
    {servers : List (String → String)} {errors : List String} {key : Bytes}
    {keyring : List pgp.Entity}
    (fetched : fetchFromKeyservers pgp fingerprint world i servers errors =
      .ok (key, keyring)) : Validated key keyring := by
  induction servers generalizing i errors with
  | nil =>
      unfold fetchFromKeyservers at fetched
      split at fetched
      · cases fetched
      · cases fetched
  | cons server servers ih =>
      unfold fetchFromKeyservers at fetched
      split at fetched
      · cases fetched
      · split at fetched
        · rename_i found single
          cases fetched
          exact validated_of_single single
        · exact ih fetched

/-- Whatever the servers before it return, one that sends the key is enough. -/
theorem fetch_of_holdsRootKey {fingerprint : String} {world : World}
    (goesOn : ∀ i, world.contextErr i = none) {i : Nat}
    {servers : List (String → String)} {errors : List String}
    (sent : ∃ k < servers.length, ∃ body,
      world.reply (i + k) = .response 200 (.ok body) ∧ HoldsRootKey pgp body) :
    ∃ key keyring,
      fetchFromKeyservers pgp fingerprint world i servers errors =
        .ok (key, keyring) := by
  induction servers generalizing i errors with
  | nil =>
      obtain ⟨k, within, -⟩ := sent
      exact absurd within (Nat.not_lt_zero k)
  | cons server servers ih =>
      unfold fetchFromKeyservers
      simp only [goesOn]
      cases single : fetchFromSingleKeyserver pgp (world.reply i) with
      | ok found => exact ⟨found.1, found.2, rfl⟩
      | error err =>
          apply ih
          obtain ⟨k, within, body, replied, holds⟩ := sent
          cases k with
          | zero =>
              obtain ⟨keyring, validated⟩ := holds.validated
              unfold Validated at validated
              rw [Nat.add_zero] at replied
              simp [fetchFromSingleKeyserver, replied, validated] at single
          | succ k =>
              rw [List.length_cons] at within
              refine ⟨k, by omega, body, ?_, holds⟩
              rw [← replied]
              congr 1
              omega

end Answers

/-! ### What every run keeps -/

section Runs

variable {pgp : OpenPGP}

/-- The answer came by the time and is one of those that are valid. -/
structure Origin (state : State pgp.Entity) (key : Bytes)
    (keyring : List pgp.Entity) (answeredAt storedAt : Nat) : Prop where
  validated : Validated key keyring
  answered : (answeredAt, key) ∈ state.answers
  before : answeredAt ≤ storedAt

/-- What the cached key and its ring are, and that a call that has yet to read the
ring began while the cache was fresh -/
structure CallSound (state : State pgp.Entity) (call : Call pgp.Entity) :
    Prop where
  began : call.began ≤ state.now
  storing : ∀ key keyring answeredAt,
    call.stage = .storing key keyring answeredAt →
      Origin state key keyring answeredAt state.now
  reading : call.stage = .reading → state.verifier.cachedKey ≠ none ∧
    call.began < state.verifier.cachedKeyTime + keyCacheTTL
  verifying : ∀ keyring answeredAt storedAt,
    call.stage = .verifying keyring answeredAt storedAt →
      (∃ key, Origin state key keyring answeredAt storedAt) ∧
        call.began < storedAt + keyCacheTTL

structure Sound (state : State pgp.Entity) : Prop where
  time : state.verifier.cachedKeyTime ≤ state.now
  cache : ∀ key, state.verifier.cachedKey = some key →
    ∃ keyring, state.verifier.keyring = some keyring ∧
      Origin state key keyring state.verifier.answeredAt
        state.verifier.cachedKeyTime
  calls : ∀ call ∈ state.calls, CallSound state call

variable {state next : State pgp.Entity} {call : Call pgp.Entity} {id : Nat}

/-- The stage holds nothing that came from the cache or goes into it. -/
def Stage.Plain {Entity : Type} : Stage Entity → Prop
  | .storing _ _ _ | .reading | .verifying _ _ _ => False
  | .checking | .fetching | .fetched _ | .verified _ => True

theorem CallSound.of_plain {stage : Stage pgp.Entity}
    (began : call.began ≤ state.now) (plain : stage.Plain) :
    CallSound state { call with stage := stage } where
  began := began
  storing key keyring answeredAt here := by
    obtain rfl : stage = .storing key keyring answeredAt := here
    exact plain.elim
  reading here := by
    obtain rfl : stage = .reading := here
    exact plain.elim
  verifying keyring answeredAt storedAt here := by
    obtain rfl : stage = .verifying keyring answeredAt storedAt := here
    exact plain.elim

theorem Call.returns_cases (call : Call pgp.Entity)
    (result : Except String Bytes) :
    (call.returns result).Plain ∨
      call.returns result = .reading ∧ ∃ key, result = .ok key := by
  unfold Call.returns
  cases result with
  | error err =>
      dsimp only
      split
      · exact .inl trivial
      · exact .inl trivial
  | ok key =>
      dsimp only
      split
      · exact .inl trivial
      · exact .inr ⟨rfl, key, rfl⟩

/-- After `FetchPublicKey` the ring is read if a signature is to be checked. -/
theorem CallSound.returns {result : Except String Bytes}
    (began : call.began ≤ state.now)
    (fresh : ∀ key, result = .ok key → state.verifier.cachedKey ≠ none ∧
      call.began < state.verifier.cachedKeyTime + keyCacheTTL) :
    CallSound state { call with stage := call.returns result } := by
  rcases call.returns_cases result with plain | ⟨reads, key, found⟩
  · exact .of_plain began plain
  · rw [reads]
    exact ⟨began, nofun, fun _ => fresh key found, nofun⟩

/-- A call stays sound while time passes, answers come and the cache is made
newer. -/
theorem CallSound.mono (sound : CallSound state call)
    (now : state.now ≤ next.now) (answers : state.answers ⊆ next.answers)
    (cached : state.verifier.cachedKey ≠ none → next.verifier.cachedKey ≠ none)
    (time : state.verifier.cachedKeyTime ≤ next.verifier.cachedKeyTime) :
    CallSound next call where
  began := Nat.le_trans sound.began now
  storing key keyring answeredAt here := by
    have origin := sound.storing key keyring answeredAt here
    exact ⟨origin.validated, answers origin.answered,
      Nat.le_trans origin.before now⟩
  reading here := by
    obtain ⟨present, fresh⟩ := sound.reading here
    exact ⟨cached present, by omega⟩
  verifying keyring answeredAt storedAt here := by
    obtain ⟨⟨key, origin⟩, fresh⟩ := sound.verifying keyring answeredAt storedAt here
    exact ⟨⟨key, origin.validated, answers origin.answered, origin.before⟩, fresh⟩

/-- A call takes a step, at which answers may have come and the cache may have been
made newer. -/
theorem Sound.setStage (sound : Sound state) {stage : Stage pgp.Entity}
    (next : State pgp.Entity)
    (here : CallSound next { call with stage := stage })
    (calls : next.calls = state.calls.set id { call with stage := stage })
    (now : state.now ≤ next.now) (answers : state.answers ⊆ next.answers)
    (cached : state.verifier.cachedKey ≠ none → next.verifier.cachedKey ≠ none)
    (time : state.verifier.cachedKeyTime ≤ next.verifier.cachedKeyTime) :
    ∀ other ∈ next.calls, CallSound next other := by
  intro other present
  rw [calls] at present
  rcases List.mem_or_eq_of_mem_set present with before | rfl
  · exact (sound.calls other before).mono now answers cached time
  · exact here

/-- Only the stage of the call changes. -/
theorem Sound.setStage_only (sound : Sound state) {stage : Stage pgp.Entity}
    (here : CallSound state { call with stage := stage }) :
    Sound (state.setStage id call stage) where
  time := sound.time
  cache key cached := by
    obtain ⟨keyring, present, origin⟩ := sound.cache key cached
    exact ⟨keyring, present, origin.validated, origin.answered, origin.before⟩
  calls := by
    refine sound.setStage (state.setStage id call stage) ?_ rfl (Nat.le_refl _)
      (List.Subset.refl _) (fun present => present) (Nat.le_refl _)
    exact here.mono (Nat.le_refl _) (List.Subset.refl _)
      (fun present => present) (Nat.le_refl _)

theorem GPGVerifier.fresh_eq_some {g : GPGVerifier pgp.Entity} {now : Nat}
    {key : Bytes} (fresh : g.fresh now = some key) :
    g.cachedKey = some key ∧ now < g.cachedKeyTime + keyCacheTTL := by
  unfold GPGVerifier.fresh at fresh
  split at fresh
  · rename_i cached present
    obtain ⟨recent, same⟩ := Option.ite_none_right_eq_some.mp fresh
    exact ⟨present.trans same, recent⟩
  · cases fresh

theorem Sound.advance {move : Move} (sound : Sound state)
    (callSound : CallSound state call)
    (taken : advance pgp state id call move = some next) : Sound next := by
  unfold Gpg.advance at taken
  split at taken
  · -- the cache is looked into
    split at taken
    · obtain rfl := Option.some.inj taken
      exact sound.setStage_only (.returns callSound.began nofun)
    · split at taken
      · rename_i key fresh
        obtain rfl := Option.some.inj taken
        obtain ⟨cached, recent⟩ := GPGVerifier.fresh_eq_some fresh
        have began := callSound.began
        refine sound.setStage_only (.returns began fun _ _ => ⟨?_, by omega⟩)
        simp [cached]
      · obtain rfl := Option.some.inj taken
        exact sound.setStage_only
          (.of_plain callSound.began trivial)
  · -- the keyservers are asked
    split at taken
    · obtain rfl := Option.some.inj taken
      exact sound.setStage_only (.returns callSound.began nofun)
    · rename_i key keyring fetched
      obtain rfl := Option.some.inj taken
      have grows : state.answers ⊆ state.answers ++ [(state.now, key)] :=
        List.subset_append_left _ _
      refine ⟨sound.time, ?_, ?_⟩
      · intro cached present
        obtain ⟨ring, has, origin⟩ := sound.cache cached present
        exact ⟨ring, has, origin.validated, grows origin.answered, origin.before⟩
      · refine sound.setStage
          { state.setStage id call (.storing key keyring state.now) with
            answers := state.answers ++ [(state.now, key)] }
          ?_ rfl (Nat.le_refl _) grows (fun present => present) (Nat.le_refl _)
        refine ⟨callSound.began, ?_, nofun, nofun⟩
        rintro _ _ _ ⟨rfl, rfl, rfl⟩
        exact ⟨validated_of_fetch fetched, by simp, Nat.le_refl _⟩
  · -- the cache is made newer
    rename_i key keyring answeredAt here
    obtain rfl := Option.some.inj taken
    have origin := callSound.storing key keyring answeredAt here
    refine ⟨Nat.le_refl _, ?_, ?_⟩
    · rintro _ ⟨rfl⟩
      exact ⟨keyring, rfl, origin.validated, origin.answered, origin.before⟩
    · refine sound.setStage
        { state.setStage id call (call.returns (.ok key)) with
          verifier := ⟨some key, state.now, some keyring, answeredAt⟩ }
        ?_ rfl (Nat.le_refl _) (List.Subset.refl _) (fun _ => nofun) sound.time
      refine CallSound.returns callSound.began fun _ _ => ⟨nofun, ?_⟩
      exact Nat.lt_of_le_of_lt callSound.began
        (Nat.lt_add_of_pos_right (by decide))
  · -- the ring is read
    rename_i here
    obtain ⟨present, fresh⟩ := callSound.reading here
    obtain ⟨key, cached⟩ := Option.ne_none_iff_exists'.mp present
    obtain ⟨keyring, has, origin⟩ := sound.cache key cached
    rw [has] at taken
    obtain rfl := Option.some.inj taken
    refine sound.setStage_only ⟨callSound.began, nofun, nofun, ?_⟩
    rintro _ _ _ ⟨rfl, rfl, rfl⟩
    exact ⟨⟨key, origin⟩, fresh⟩
  · -- the signature is checked
    obtain rfl := Option.some.inj taken
    exact sound.setStage_only (.of_plain callSound.began trivial)
  · cases taken

theorem Sound.step {label : Label} (sound : Sound state)
    (taken : step pgp state label = some next) : Sound next := by
  cases label with
  | wait nanoseconds =>
      obtain rfl := Option.some.inj taken
      refine ⟨Nat.le_add_right_of_le sound.time, ?_, ?_⟩
      · intro key cached
        obtain ⟨keyring, has, origin⟩ := sound.cache key cached
        exact ⟨keyring, has, origin.validated, origin.answered, origin.before⟩
      · intro call present
        exact (sound.calls call present).mono (Nat.le_add_right _ _)
          (List.Subset.refl _) (fun present => present) (Nat.le_refl _)
  | begin kind =>
      obtain rfl := Option.some.inj taken
      refine ⟨sound.time, ?_, ?_⟩
      · intro key cached
        obtain ⟨keyring, has, origin⟩ := sound.cache key cached
        exact ⟨keyring, has, origin.validated, origin.answered, origin.before⟩
      · intro call present
        rcases List.mem_append.mp present with before | added
        · exact (sound.calls call before).mono (Nat.le_refl _)
            (List.Subset.refl _) (fun present => present) (Nat.le_refl _)
        · obtain rfl := List.mem_singleton.mp added
          exact ⟨Nat.le_refl _, nofun, nofun, nofun⟩
  | take id move =>
      obtain ⟨call, here, moved⟩ := Option.bind_eq_some_iff.mp taken
      exact sound.advance (sound.calls call (List.mem_of_getElem? here)) moved

theorem sound_initial : @Sound pgp {} :=
  ⟨Nat.le_refl _, nofun, nofun⟩

theorem verifying_of_advance {file : Except String Bytes}
    (moved : advance pgp state id call (.checkDetachedSignature file) = some next) :
    ∃ keyring answeredAt storedAt,
      call.stage = .verifying keyring answeredAt storedAt := by
  unfold advance at moved
  cases stage : call.stage with
  | verifying keyring answeredAt storedAt =>
      exact ⟨keyring, answeredAt, storedAt, rfl⟩
  | checking | fetching | storing | reading | fetched | verified =>
      simp [stage] at moved

/-- The cache is changed only by a call that stores what it found. -/
theorem storing_of_advance {move : Move}
    (moved : advance pgp state id call move = some next)
    (changes : next.verifier ≠ state.verifier) :
    move = .updateMemoryCache ∧ ∃ key keyring answeredAt,
      call.stage = .storing key keyring answeredAt := by
  have differs : ∀ {after : State pgp.Entity}, some after = some next →
      after.verifier ≠ state.verifier := by
    rintro after same
    rwa [Option.some.inj same]
  unfold advance at moved
  split at moved
  · split at moved
    · exact (differs moved rfl).elim
    · split at moved
      · exact (differs moved rfl).elim
      · exact (differs moved rfl).elim
  · split at moved
    · exact (differs moved rfl).elim
    · exact (differs moved rfl).elim
  · rename_i key keyring answeredAt stage
    exact ⟨rfl, key, keyring, answeredAt, stage⟩
  · split at moved
    · exact (differs moved rfl).elim
    · exact (differs moved rfl).elim
  · exact (differs moved rfl).elim
  · cases moved

variable {label : Label}

theorem checksTrusted_of_sound (sound : Sound state)
    (taken : step pgp state label = some next) : ChecksTrusted state label := by
  cases label with
  | wait _ => trivial
  | begin _ => trivial
  | take id move =>
      cases move with
      | checkDetachedSignature file =>
          obtain ⟨call, here, moved⟩ := Option.bind_eq_some_iff.mp taken
          obtain ⟨keyring, answeredAt, storedAt, stage⟩ :=
            verifying_of_advance moved
          have callSound := sound.calls call (List.mem_of_getElem? here)
          obtain ⟨⟨key, origin⟩, fresh⟩ :=
            callSound.verifying keyring answeredAt storedAt stage
          obtain ⟨entity, rfl, pinned⟩ := origin.validated.pinned
          exact ⟨call, here, entity, key, answeredAt, storedAt, stage, pinned,
            origin.answered, origin.validated, origin.before, fresh⟩
      | checkCache => trivial
      | fetchFromKeyservers _ => trivial
      | updateMemoryCache => trivial
      | readKeyring => trivial

theorem storesValidated_of_sound (sound : Sound state) :
    StoresValidated state label := by
  intro next taken changes
  cases label with
  | wait _ =>
      obtain rfl := Option.some.inj taken
      exact absurd rfl changes
  | begin _ =>
      obtain rfl := Option.some.inj taken
      exact absurd rfl changes
  | take id move =>
      obtain ⟨call, here, moved⟩ := Option.bind_eq_some_iff.mp taken
      obtain ⟨rfl, key, keyring, answeredAt, stage⟩ :=
        storing_of_advance moved changes
      have callSound := sound.calls call (List.mem_of_getElem? here)
      have origin := callSound.storing key keyring answeredAt stage
      exact ⟨id, call, key, keyring, answeredAt, rfl, here, stage,
        origin.answered, origin.validated⟩

end Runs

/-! ### The requests succeed -/

/-- A call that stores what it found returns it. -/
def StoringReturns (pgp : OpenPGP) : Prop :=
  ∀ (state : State pgp.Entity) id call key keyring answeredAt,
    state.calls[id]? = some call →
      call.stage = .storing key keyring answeredAt →
        ∃ next, step pgp state (.take id .updateMemoryCache) = some next ∧
          next.calls[id]? = some { call with stage := call.returns (.ok key) }

/-- A call that asks the keyservers finds a key, if its context is not cancelled and
one of them sends the pinned one. -/
def FetchingSucceeds (pgp : OpenPGP) : Prop :=
  ∀ (state : State pgp.Entity) id call world,
    state.calls[id]? = some call → call.stage = .fetching →
      (∀ i, world.contextErr i = none) →
        (∃ i < keyservers.length, ∃ body,
          world.reply i = .response 200 (.ok body) ∧ HoldsRootKey pgp body) →
          ∃ next key keyring answeredAt,
            step pgp state (.take id (.fetchFromKeyservers world)) = some next ∧
              next.calls[id]? = some
                { call with stage := .storing key keyring answeredAt }

section Requests

variable (pgp : OpenPGP)

theorem setStage_getElem? {state : State pgp.Entity} {id : Nat}
    {call : Call pgp.Entity} (here : state.calls[id]? = some call)
    (stage : Stage pgp.Entity) :
    (state.setStage id call stage).calls[id]? =
      some { call with stage := stage } := by
  obtain ⟨within, -⟩ := List.getElem?_eq_some_iff.mp here
  exact List.getElem?_set_self within

theorem storingReturns : StoringReturns pgp := by
  intro state id call key keyring answeredAt here stage
  refine ⟨{ state.setStage id call (call.returns (.ok key)) with
      verifier := ⟨some key, state.now, some keyring, answeredAt⟩ }, ?_,
    setStage_getElem? pgp here (call.returns (.ok key))⟩
  simp only [step, here, Option.bind_some, advance, stage]

theorem fetchingSucceeds : FetchingSucceeds pgp := by
  intro state id call world here stage goesOn sent
  obtain ⟨key, keyring, fetched⟩ := @fetch_of_holdsRootKey pgp
    (String.ofList rootKeyFP) world goesOn 0 keyservers []
    (by simpa only [Nat.zero_add] using sent)
  refine ⟨{ state.setStage id call (.storing key keyring state.now) with
      answers := state.answers ++ [(state.now, key)] }, key, keyring, state.now,
    ?_, setStage_getElem? pgp here (.storing key keyring state.now)⟩
  simp only [step, here, Option.bind_some, advance, stage, fetched]

end Requests

/-- In every run each signature is checked with one entity of the pinned fingerprint,
out of an answer that was stored less than a day before the call began.  The cache
only ever takes valid answers, and a keyserver that sends the key is enough. -/
theorem verifies_with_pinned_key (pgp : OpenPGP) (labels : List Label) :
    AllSteps (step pgp) ChecksTrusted {} labels ∧
      AllSteps (step pgp) StoresValidated {} labels ∧
        FetchingSucceeds pgp ∧ StoringReturns pgp := by
  refine ⟨?_, ?_, fetchingSucceeds pgp, storingReturns pgp⟩
  · apply allSteps_of_invariant Sound.step checksTrusted_of_sound sound_initial
  · apply allSteps_of_invariant Sound.step _ sound_initial
    exact fun sound _ => storesValidated_of_sound sound

/-! ### An old answer -/

/-- A library that finds the release key in every answer -/
def releaseKeys : OpenPGP where
  Entity := Unit
  fingerprint _ := some rootKey
  readArmoredKeyRing _ := .ok [some ()]
  checkDetachedSignature _ _ _ := none

/-- An answer is stored two nanoseconds after it came, and a day and a nanosecond
after it came a signature is checked with it. -/
theorem not_checksRecent :
    ¬ AllSteps (step releaseKeys) ChecksRecent {}
      [.begin .fetchPublicKey, .take 0 .checkCache,
        .take 0 (.fetchFromKeyservers
          ⟨fun _ => none, fun _ => .response 200 (.ok [])⟩),
        .wait 2, .take 0 .updateMemoryCache, .wait (keyCacheTTL - 1),
        .begin (.verifySignature [] []), .take 1 .checkCache,
        .take 1 .readKeyring, .take 1 (.checkDetachedSignature (.ok []))] := by
  intro recent
  have later := ((((recent _ rfl).2 _ rfl).2 _ rfl).2 _ rfl).2 _ rfl
  have tenth := (((((later.2 _ rfl).2 _ rfl).2 _ rfl).2 _ rfl).2 _ rfl).1
  obtain ⟨call, keyring, answeredAt, storedAt, here, stage, within⟩ := tenth
  cases here
  cases stage
  exact absurd within (by decide)

end Gpg

end JetKvm
