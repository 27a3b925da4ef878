import JetKvm.LabelledRuns
import Mathlib.Data.List.Basic
import Mathlib.Data.List.TakeDrop
import Mathlib.Logic.Function.Basic
import Mathlib.Tactic.SplitIfs

/-!
# The certificate store

Translation of `internal/websecure` and of `getCertificate` in `web_tls.go`: the
store in memory, the two files of each name, self-signed certificates made
during a handshake, and what a restart loads.

A PEM file is the list of the blocks that are complete in it; a block that was
cut off is skipped by the decoder.
-/

namespace JetKvm

namespace WebSecure

namespace Certificates

open LabelledRuns

/-- A name of the store is part of a file name. -/
structure Name where
  text : String
  noSeparator : '/' ∉ text.toList
  deriving DecidableEq

inductive KeyType where
  | rsa
  | ecdsa
  | ed25519
  deriving DecidableEq, Repr

/-- What the TLS and IDNA libraries tell of encoded certificates, of keys and of
host names.  `isPair` tells that a certificate parses and is for the public key
of a private key. -/
structure Library (Der Key : Type) where
  keyType : Key → KeyType
  isPair : Der → Key → Bool
  verifyHostname : Der → Name → Bool
  toASCII : String → Option Name

variable {Der Key : Type}

/-- `tls.Certificate`, as `tls.X509KeyPair` and `x509.CreateCertificate` make
it -/
structure Certificate (library : Library Der Key) where
  leaf : Der
  rest : List Der
  key : Key
  isPair : library.isPair leaf key

/-! ### Files -/

/-- A PEM block: its type with its bytes -/
inductive Block (Der Key : Type) where
  | certificate (der : Der)
  | rsaPrivateKey (pkcs1 : Key)
  | ecPrivateKey (sec1 : Key)
  | ed25519PrivateKey (raw : Key)

namespace Block

def der? : Block Der Key → Option Der
  | certificate der => some der
  | _ => none

def isPrivateKey : Block Der Key → Bool
  | certificate _ => false
  | _ => true

/-- `parsePrivateKey` of `crypto/tls` knows PKCS #1, PKCS #8 and SEC 1. -/
def parsePrivateKey : Block Der Key → Option Key
  | rsaPrivateKey key => some key
  | ecPrivateKey key => some key
  | _ => none

end Block

def chainOf (blocks : List (Block Der Key)) : List Der :=
  blocks.filterMap Block.der?

def keyOf (blocks : List (Block Der Key)) : Option Key :=
  (blocks.find? Block.isPrivateKey).bind Block.parsePrivateKey

variable (library : Library Der Key)

def x509KeyPair (crt key : List (Block Der Key)) :
    Option (Certificate library) :=
  match chainOf crt, keyOf key with
  | leaf :: rest, some key =>
      if isPair : library.isPair leaf key then some ⟨leaf, rest, key, isPair⟩
      else none
  | _, _ => none

/-- The files `<name>.crt` and `<name>.key` -/
structure Files (Der Key : Type) where
  crt : Option (List (Block Der Key)) := none
  key : Option (List (Block Der Key)) := none

def Files.load (files : Files Der Key) : Option (Certificate library) :=
  match files.crt, files.key with
  | some crt, some key => x509KeyPair library crt key
  | _, _ => none

/-- How far a file is written: not at all, as it cannot be opened, up to an error
after some blocks, or to its end -/
inductive Write where
  | notOpened
  | cut (blocks : Nat)
  | complete
  deriving DecidableEq, Repr

/-- `withSecretFile` truncates the file that it opens. -/
def withSecretFile (content : List (Block Der Key)) (write : Write)
    (before : Option (List (Block Der Key))) : Option (List (Block Der Key)) :=
  match write with
  | .notOpened => before
  | .cut blocks => some (content.take blocks)
  | .complete => some content

/-- What a save meets: `ensureStorePath`, the key file and the certificate
file -/
structure Disk where
  ensured : Bool := true
  key : Write := .complete
  crt : Write := .complete
  deriving DecidableEq, Repr

variable {library}

def keyBlock (certificate : Certificate library) : Block Der Key :=
  match library.keyType certificate.key with
  | .rsa => .rsaPrivateKey certificate.key
  | .ecdsa => .ecPrivateKey certificate.key
  | .ed25519 => .ed25519PrivateKey certificate.key

def crtBlocks (certificate : Certificate library) : List (Block Der Key) :=
  (certificate.leaf :: certificate.rest).map .certificate

def saveCertificate (files : Files Der Key) (certificate : Certificate library)
    (disk : Disk) : Files Der Key :=
  if disk.ensured then
    let key := withSecretFile [keyBlock certificate] disk.key files.key
    if disk.key = .complete then
      { key := key
        crt := withSecretFile (crtBlocks certificate) disk.crt files.crt }
    else { files with key := key }
  else files

/-! ### The store -/

/-- `webSecureCustomCertificateName` -/
def userDefined : Name :=
  ⟨"user-defined", by decide⟩

/-- `selfSignerCAMagicName` -/
def caName : Name :=
  ⟨"__ca__", by decide⟩

def defaultDomain : Name :=
  ⟨"jetkvm.local", by decide⟩

variable (library) in
structure Store where
  certificates : Name → Option (Certificate library) := fun _ => none
  files : Name → Files Der Key := fun _ => {}

/-- The certificate is set and saved. -/
def Store.put (store : Store library) (name : Name)
    (certificate : Certificate library) (disk : Disk) : Store library where
  certificates := Function.update store.certificates name (some certificate)
  files := Function.update store.files name
    (saveCertificate (store.files name) certificate disk)

/-- The certificate that `ValidateAndSaveCertificate` goes on to save, of the one
that `tls.X509KeyPair` found in the texts -/
def accepted (name : Name) (parsed : Option (Certificate library))
    (ignoreWarning : Bool) : Option (Certificate library) :=
  parsed.filter fun certificate =>
    library.verifyHostname certificate.leaf name || ignoreWarning

/-- A certificate with an ECDSA key, unless it cannot be made, and its save -/
structure Making (library : Library Der Key) where
  made : Option { made : Certificate library //
    library.keyType made.key = .ecdsa }
  disk : Disk := {}

/-- An entry of the store that a handshake serves -/
structure Entry (library : Library Der Key) where
  name : Name
  certificate : Certificate library

/-- The part of `createSelfSignedCert` after the certificate of the CA -/
def Store.make (store : Store library) (name : Name) (making : Making library) :
    Store library × Option (Entry library) :=
  match making.made with
  | none => (store, none)
  | some made => (store.put name made.1 making.disk, some ⟨name, made.1⟩)

def Store.getCA (store : Store library) (ca : Making library) :
    Store library × Option (Entry library) :=
  match store.certificates caName with
  | some found => (store, some ⟨caName, found⟩)
  | none => store.make caName ca

def Store.createSelfSignedCert (store : Store library) (name : Name)
    (ca making : Making library) : Store library × Option (Entry library) :=
  match store.certificates name with
  | some found => (store, some ⟨name, found⟩)
  | none =>
      if name = caName then store.make name making
      else
        match store.getCA ca with
        | (store, none) => (store, none)
        | (store, some _) => store.make name making

/-! ### Handshakes -/

inductive TLSMode where
  | disabled
  | selfSigned
  | custom
  deriving DecidableEq, Repr

/-- `ca` and `making` are the certificates that the handshake would make. -/
structure Handshake (library : Library Der Key) where
  mode : TLSMode
  timeSynced : Bool
  serverName : String
  localAddr : String
  ca : Making library
  making : Making library

/-- The name that `SelfSigner.GetCertificate` asks for -/
def Handshake.name (handshake : Handshake library) : Name :=
  let hostname :=
    if handshake.serverName ≠ "" ∧ handshake.serverName ≠ caName.text then
      handshake.serverName
    else .ofList (handshake.localAddr.toList.takeWhile (· ≠ ':'))
  (library.toASCII hostname).getD defaultDomain

/-- The handshake comes to `SelfSigner.GetCertificate`. -/
def Handshake.isSelfSigned (handshake : Handshake library) : Bool :=
  handshake.mode = .selfSigned && handshake.timeSynced

/-- `getCertificate` -/
def Store.getCertificate (store : Store library)
    (handshake : Handshake library) : Store library × Option (Entry library) :=
  if handshake.isSelfSigned then
    store.createSelfSignedCert handshake.name handshake.ca handshake.making
  else if handshake.mode = .custom then
    (store, (store.certificates userDefined).map (⟨userDefined, ·⟩))
  else (store, none)

/-! ### Runs -/

/-- `installed` is the certificate of the last call of
`ValidateAndSaveCertificate` for the custom name that returned nil. -/
structure System (library : Library Der Key) where
  store : Store library := {}
  installed : Option (Certificate library) := none

/-- A restart that cannot list the directory loads nothing, and a file that it
cannot read is skipped. -/
inductive Label (library : Library Der Key) where
  | validateAndSave (name : Name) (parsed : Option (Certificate library))
      (ignoreWarning : Bool) (disk : Disk)
  | handshake (handshake : Handshake library)
  | restart (listed : Bool) (readable : Name → Bool)

def Store.loadCertificates (store : Store library) (listed : Bool)
    (readable : Name → Bool) : Store library where
  certificates name :=
    if listed && readable name then (store.files name).load library else none
  files := store.files

def step (system : System library) : Label library → Option (System library)
  | .validateAndSave name parsed ignoreWarning disk =>
      match accepted name parsed ignoreWarning with
      | none => some system
      | some certificate =>
          some
            { store := system.store.put name certificate disk
              installed :=
                if name = userDefined then some certificate
                else system.installed }
  | .handshake handshake =>
      some { system with store := (system.store.getCertificate handshake).1 }
  | .restart listed readable =>
      some { system with store := system.store.loadCertificates listed readable }

/-- No file is there, or the two are a pair that loads. -/
def Files.Match (library : Library Der Key) (files : Files Der Key) : Prop :=
  files.crt = none ∧ files.key = none ∨ (files.load library).isSome

/-- The custom certificate, in memory and on disk, is the one that was
installed, if it is there at all. -/
structure Sound (system : System library) : Prop where
  memory : ∀ certificate,
    system.store.certificates userDefined = some certificate →
      system.installed = some certificate
  disk : ∀ certificate,
    (system.store.files userDefined).load library = some certificate →
      system.installed = some certificate
  files : ∀ name, (system.store.files name).Match library

/-- A handshake leaves the custom certificate alone, and with self-signed
certificates it serves another entry of the store. -/
def LeavesCustom (system : System library) : Label library → Prop
  | .handshake handshake =>
      let after := system.store.getCertificate handshake
      after.1.certificates userDefined =
          system.store.certificates userDefined ∧
        (handshake.isSelfSigned → ∀ entry ∈ after.2,
          entry.name ≠ userDefined ∧
            after.1.certificates entry.name = some entry.certificate)
  | _ => True

/-! ### When a save is harmless -/

def Files.chain (files : Files Der Key) : List Der :=
  (files.crt.map chainOf).getD []

def Files.privateKey (files : Files Der Key) : Option Key :=
  files.key.bind keyOf

/-- The key can be loaded, and the certificate that is there is for it. -/
def KeyFits (files : Files Der Key) (certificate : Certificate library) : Prop :=
  library.keyType certificate.key ≠ .ed25519 ∧
    ∃ leaf ∈ files.chain.head?, library.isPair leaf certificate.key

/-- The save does not leave files that are no pair: it stops before it opens the
key file, or it writes a key that can be loaded and some of the chain, or only
such a key, for the certificate that is there. -/
def LeavesPair (files : Files Der Key) (certificate : Certificate library)
    (disk : Disk) : Prop :=
  disk.ensured = true →
    match disk.key, disk.crt with
    | .notOpened, _ => True
    | .cut blocks, _ => 0 < blocks ∧ KeyFits files certificate
    | .complete, .notOpened => KeyFits files certificate
    | .complete, .cut blocks =>
        0 < blocks ∧ library.keyType certificate.key ≠ .ed25519
    | .complete, .complete => library.keyType certificate.key ≠ .ed25519

/-- The save leaves no other certificate either: where it does not write the
whole chain, the same one is there, or nothing at all. -/
def LeavesOwn (files : Files Der Key) (certificate : Certificate library)
    (disk : Disk) : Prop :=
  match disk.ensured, disk.key, disk.crt with
  | false, _, _ | true, .notOpened, _ =>
      files.crt = none ∨ files.load library = some certificate
  | true, .cut _, _ | true, .complete, .notOpened =>
      files.chain = certificate.leaf :: certificate.rest
  | true, .complete, .cut blocks => certificate.rest.length < blocks
  | true, .complete, .complete => True

section Saves

variable {files : Files Der Key} {certificate : Certificate library}

theorem load_eq_some :
    files.load library = some certificate ↔
      files.chain = certificate.leaf :: certificate.rest ∧
        files.privateKey = some certificate.key := by
  obtain ⟨crt, key⟩ := files
  cases crt with
  | none => simp [Files.load, Files.chain]
  | some crt =>
      cases key with
      | none => simp [Files.load, Files.privateKey]
      | some key =>
          simp only [Files.load, Files.chain, Files.privateKey, Option.map_some,
            Option.getD_some, Option.bind_some, x509KeyPair]
          constructor
          · intro loads
            split at loads
            · split_ifs at loads
              cases loads
              exact ⟨by assumption, by assumption⟩
            · cases loads
          · rintro ⟨sameChain, sameKey⟩
            rw [sameChain, sameKey]
            exact dif_pos certificate.isPair

theorem load_isSome :
    (files.load library).isSome ↔ ∃ leaf ∈ files.chain.head?,
      ∃ key ∈ files.privateKey, library.isPair leaf key := by
  constructor
  · intro loads
    obtain ⟨certificate, loads⟩ := Option.isSome_iff_exists.mp loads
    obtain ⟨sameChain, sameKey⟩ := load_eq_some.mp loads
    exact ⟨certificate.leaf, by rw [sameChain]; rfl, certificate.key, sameKey,
      certificate.isPair⟩
  · rintro ⟨leaf, isLeaf, key, isKey, isPair⟩
    cases chain : files.chain with
    | nil => simp [chain] at isLeaf
    | cons first rest =>
        rw [chain] at isLeaf
        cases isLeaf
        have loads : files.load library = some ⟨leaf, rest, key, isPair⟩ :=
          load_eq_some.mpr ⟨chain, isKey⟩
        rw [loads]
        rfl

theorem chainOf_certificates (chain : List Der) :
    chainOf (chain.map (.certificate : Der → Block Der Key)) = chain := by
  induction chain with
  | nil => rfl
  | cons der chain ih => exact congrArg (der :: ·) ih

theorem chainOf_crtBlocks :
    chainOf (crtBlocks certificate) = certificate.leaf :: certificate.rest :=
  chainOf_certificates _

theorem chainOf_take_crtBlocks (blocks : Nat) :
    chainOf ((crtBlocks certificate).take blocks) =
      (certificate.leaf :: certificate.rest).take blocks := by
  rw [crtBlocks, ← List.map_take, chainOf_certificates]

theorem keyOf_keyBlock :
    keyOf [keyBlock certificate] =
      if library.keyType certificate.key = .ed25519 then none
      else some certificate.key := by
  rw [keyBlock]
  cases library.keyType certificate.key <;> rfl

/-- Files with the new key, or with what was written of it -/
theorem match_key (crt : Option (List (Block Der Key))) (blocks : Nat) :
    Files.Match library
        { crt := crt, key := some ([keyBlock certificate].take blocks) } ↔
      0 < blocks ∧ library.keyType certificate.key ≠ .ed25519 ∧
        ∃ leaf ∈ (crt.map chainOf).getD [] |>.head?,
          library.isPair leaf certificate.key := by
  simp only [Files.Match, reduceCtorEq, and_false, false_or, load_isSome,
    Files.privateKey, Option.bind_some, Files.chain]
  cases blocks with
  | zero => simp [keyOf]
  | succ blocks =>
      rw [List.take_succ_cons, List.take_nil, keyOf_keyBlock]
      by_cases ed25519 : library.keyType certificate.key = .ed25519
      · simp [ed25519]
      · simp [ed25519]

theorem match_saveCertificate (isMatch : files.Match library) (disk : Disk) :
    (saveCertificate files certificate disk).Match library ↔
      LeavesPair files certificate disk := by
  obtain ⟨ensured, key, crt⟩ := disk
  have whole : [keyBlock certificate] = [keyBlock certificate].take 1 := rfl
  cases ensured with
  | false => simp [saveCertificate, LeavesPair, isMatch]
  | true =>
      cases key with
      | notOpened =>
          simp [saveCertificate, LeavesPair, withSecretFile, isMatch]
      | cut blocks =>
          simp only [saveCertificate, LeavesPair, withSecretFile, if_true,
            reduceCtorEq, if_false, match_key, KeyFits, Files.chain,
            forall_const]
      | complete =>
          cases crt with
          | notOpened =>
              simp only [saveCertificate, LeavesPair, withSecretFile, if_true,
                forall_const]
              rw [whole, match_key]
              simp [KeyFits, Files.chain]
          | cut blocks =>
              simp only [saveCertificate, LeavesPair, withSecretFile, if_true,
                forall_const]
              rw [whole, match_key]
              cases blocks with
              | zero => simp [chainOf]
              | succ blocks =>
                  simp [chainOf_take_crtBlocks, certificate.isPair]
          | complete =>
              simp only [saveCertificate, LeavesPair, withSecretFile, if_true,
                forall_const]
              rw [whole, match_key]
              simp [chainOf_crtBlocks, certificate.isPair]

theorem privateKey_saved {blocks : Nat} {crt : Option (List (Block Der Key))}
    {found : Certificate library}
    (loads : Files.load library
        { crt := crt, key := some ([keyBlock certificate].take blocks) } =
      some found) : found.key = certificate.key := by
  have sameKey := (load_eq_some.mp loads).2
  cases blocks with
  | zero => simp [Files.privateKey, keyOf] at sameKey
  | succ blocks =>
      simp only [Files.privateKey, Option.bind_some, List.take_succ_cons,
        List.take_nil, keyOf_keyBlock] at sameKey
      split_ifs at sameKey
      exact (Option.some.inj sameKey).symm

/-- Files with the new key load the new certificate or none exactly if they have
its chain. -/
theorem own_key {crt : Option (List (Block Der Key))} {blocks : Nat}
    (isMatch : Files.Match library
      { crt := crt, key := some ([keyBlock certificate].take blocks) }) :
    (∀ found, Files.load library
        { crt := crt, key := some ([keyBlock certificate].take blocks) } =
          some found → found = certificate) ↔
      (crt.map chainOf).getD [] = certificate.leaf :: certificate.rest := by
  constructor
  · intro own
    obtain ⟨-, absent⟩ | loads := isMatch
    · cases absent
    · obtain ⟨found, loads⟩ := Option.isSome_iff_exists.mp loads
      obtain rfl := own found loads
      exact (load_eq_some.mp loads).1
  · intro sameChain found loads
    have foundChain := (load_eq_some.mp loads).1
    have sameKey := privateKey_saved loads
    obtain ⟨leaf, rest, key, isPair⟩ := found
    obtain ⟨rfl, rfl⟩ := List.cons.inj (sameChain.symm.trans foundChain)
    cases sameKey
    rfl

theorem own_files (isMatch : files.Match library) :
    (∀ found, files.load library = some found → found = certificate) ↔
      files.crt = none ∨ files.load library = some certificate := by
  constructor
  · intro own
    obtain ⟨absent, -⟩ | loads := isMatch
    · exact .inl absent
    · obtain ⟨found, loads⟩ := Option.isSome_iff_exists.mp loads
      exact .inr (own found loads ▸ loads)
  · rintro (absent | same) found loads
    · simp [Files.load, absent] at loads
    · exact Option.some.inj (loads.symm.trans same)

theorem own_saveCertificate (isMatch : files.Match library) {disk : Disk}
    (leavesPair : LeavesPair files certificate disk) :
    (∀ found, (saveCertificate files certificate disk).load library =
        some found → found = certificate) ↔
      LeavesOwn files certificate disk := by
  have isSaved := (match_saveCertificate isMatch disk).mpr leavesPair
  have whole : [keyBlock certificate] = [keyBlock certificate].take 1 := rfl
  obtain ⟨ensured, key, crt⟩ := disk
  cases ensured with
  | false => exact own_files isMatch
  | true =>
      cases key with
      | notOpened => exact own_files isMatch
      | cut blocks => exact own_key isSaved
      | complete =>
          simp only [saveCertificate, withSecretFile, if_true] at isSaved ⊢
          rw [whole] at isSaved ⊢
          rw [own_key isSaved]
          cases crt with
          | notOpened => exact Iff.rfl
          | cut blocks =>
              rw [Option.map_some, Option.getD_some, chainOf_take_crtBlocks,
                List.take_eq_self_iff]
              exact Iff.rfl
          | complete =>
              simp [LeavesOwn, chainOf_crtBlocks]

end Saves

/-! ### What a handshake saves -/

structure Save (library : Library Der Key) where
  name : Name
  certificate : Certificate library
  disk : Disk

namespace Store

def make? (name : Name) (making : Making library) : List (Save library) :=
  making.made.toList.map fun made => ⟨name, made.1, making.disk⟩

/-- The certificates that `createSelfSignedCert` makes and saves -/
def saves (store : Store library) (name : Name) (ca making : Making library) :
    List (Save library) :=
  if (store.certificates name).isSome then []
  else if name = caName ∨ (store.certificates caName).isSome then
    make? name making
  else if ca.made.isSome then make? caName ca ++ make? name making
  else []

def putAll (store : Store library) (saves : List (Save library)) :
    Store library :=
  saves.foldl (fun store save => store.put save.name save.certificate save.disk)
    store

variable {store : Store library} {saves : List (Save library)} {name : Name}
variable {ca making : Making library}

section Put

variable {other : Name} {certificate : Certificate library} {disk : Disk}

@[simp] theorem put_files_self :
    (store.put name certificate disk).files name =
      saveCertificate (store.files name) certificate disk :=
  Function.update_self _ _ _

@[simp] theorem put_certificates_self :
    (store.put name certificate disk).certificates name = some certificate :=
  Function.update_self _ _ _

theorem put_files_of_ne (differs : other ≠ name) :
    (store.put name certificate disk).files other = store.files other :=
  Function.update_of_ne differs _ _

theorem put_certificates_of_ne (differs : other ≠ name) :
    (store.put name certificate disk).certificates other =
      store.certificates other :=
  Function.update_of_ne differs _ _

end Put

theorem make_eq : (store.make name making).1 = store.putAll (make? name making) := by
  rw [make, make?]
  cases making.made <;> rfl

theorem createSelfSignedCert_eq :
    (store.createSelfSignedCert name ca making).1 =
      store.putAll (store.saves name ca making) := by
  rw [createSelfSignedCert, Store.saves]
  cases store.certificates name with
  | some found => rfl
  | none =>
      by_cases isCA : name = caName
      · simp only [isCA, if_true, true_or]
        exact make_eq
      · simp only [getCA, isCA, if_false, false_or]
        cases store.certificates caName with
        | some found => exact make_eq
        | none =>
            cases made : ca.made with
            | none => simp [make, made, putAll]
            | some caMade =>
                simp [make, make?, made, putAll]
                cases making.made <;> rfl

theorem make_served {entry : Entry library}
    (served : entry ∈ (store.make name making).2) :
    entry.name = name ∧
      (store.make name making).1.certificates name = some entry.certificate := by
  unfold make at served ⊢
  cases made : making.made with
  | none =>
      rw [made] at served
      cases served
  | some made' =>
      rw [made] at served
      cases served
      exact ⟨rfl, put_certificates_self⟩

/-- What is served is the entry of the name that is asked for. -/
theorem createSelfSignedCert_served {entry : Entry library}
    (served : entry ∈ (store.createSelfSignedCert name ca making).2) :
    entry.name = name ∧ (store.createSelfSignedCert name ca making).1.certificates
      name = some entry.certificate := by
  unfold createSelfSignedCert at served ⊢
  cases found : store.certificates name with
  | some certificate =>
      rw [found] at served
      cases served
      exact ⟨rfl, found⟩
  | none =>
      simp only [found] at served ⊢
      split_ifs at served ⊢
      · exact make_served served
      · split at served
        · cases served
        · exact make_served served

theorem nodup_saves : ((store.saves name ca making).map Save.name).Nodup := by
  rw [Store.saves]
  split_ifs with present alone made
  · exact List.nodup_nil
  · cases h : making.made <;> simp [make?, h]
  · rw [not_or] at alone
    cases h : making.made <;> cases h' : ca.made <;>
      simp [make?, h, h', Ne.symm alone.1]
  · exact List.nodup_nil

theorem name_of_mem_saves {save : Save library}
    (isSave : save ∈ store.saves name ca making) :
    save.name = caName ∨ save.name = name := by
  have named {made : Name} {making : Making library}
      (isMade : save ∈ make? made making) : save.name = made := by
    obtain ⟨_, -, rfl⟩ := List.mem_map.mp isMade
    rfl
  rw [Store.saves] at isSave
  split_ifs at isSave
  · cases isSave
  · exact .inr (named isSave)
  · exact (List.mem_append.mp isSave).imp named named
  · cases isSave

theorem putAll_of_not_mem (absent : name ∉ saves.map Save.name) :
    (store.putAll saves).files name = store.files name ∧
      (store.putAll saves).certificates name = store.certificates name := by
  induction saves generalizing store with
  | nil => exact ⟨rfl, rfl⟩
  | cons save saves ih =>
      rw [List.map_cons, List.mem_cons, not_or] at absent
      obtain ⟨files, certificates⟩ := @ih
        (store.put save.name save.certificate save.disk) absent.2
      exact ⟨files.trans (put_files_of_ne absent.1),
        certificates.trans (put_certificates_of_ne absent.1)⟩

theorem putAll_of_mem (nodup : (saves.map Save.name).Nodup) {save : Save library}
    (isSave : save ∈ saves) :
    (store.putAll saves).files save.name =
        saveCertificate (store.files save.name) save.certificate save.disk ∧
      (store.putAll saves).certificates save.name = some save.certificate := by
  induction saves generalizing store with
  | nil => cases isSave
  | cons first saves ih =>
      obtain ⟨absent, nodup⟩ := List.nodup_cons.mp nodup
      rcases List.mem_cons.mp isSave with rfl | later
      · obtain ⟨files, certificates⟩ := @putAll_of_not_mem _ _ _
          (store.put save.name save.certificate save.disk) _ _ absent
        exact ⟨files.trans put_files_self,
          certificates.trans put_certificates_self⟩
      · have differs : save.name ≠ first.name := fun same =>
          absent (same ▸ List.mem_map_of_mem later)
        obtain ⟨files, certificates⟩ := @ih
          (store.put first.name first.certificate first.disk) nodup later
        rw [put_files_of_ne differs] at files
        exact ⟨files, certificates⟩

end Store

/-! ### Harmless steps -/

/-- The step does not touch the custom certificate but for a call that saves it
whole, with a key that can be loaded, and leaves pairs of files. -/
def Harmless (system : System library) : Label library → Prop
  | .validateAndSave name parsed ignoreWarning disk =>
      ∀ certificate ∈ accepted name parsed ignoreWarning,
        LeavesPair (system.store.files name) certificate disk ∧
          (name = userDefined →
            LeavesOwn (system.store.files name) certificate disk)
  | .handshake handshake =>
      handshake.isSelfSigned →
        (handshake.name = userDefined →
          system.store.certificates userDefined = none) ∧
        ∀ save ∈ system.store.saves handshake.name handshake.ca handshake.making,
          save.name ≠ userDefined ∧
            LeavesPair (system.store.files save.name) save.certificate save.disk
  | .restart _ _ => True

section Steps

variable {system next : System library} {label : Label library}

theorem Sound.put (sound : Sound system) (name : Name)
    (certificate : Certificate library) (disk : Disk) :
    Sound
        { store := system.store.put name certificate disk
          installed := if name = userDefined then some certificate
            else system.installed } ↔
      LeavesPair (system.store.files name) certificate disk ∧
        (name = userDefined →
          LeavesOwn (system.store.files name) certificate disk) := by
  have isMatch := sound.files name
  constructor
  · intro kept
    have files := kept.files name
    simp only [Store.put_files_self] at files
    have leavesPair := (match_saveCertificate isMatch disk).mp files
    refine ⟨leavesPair, ?_⟩
    rintro rfl
    refine (own_saveCertificate isMatch leavesPair).mp fun found loads => ?_
    have installed := kept.disk found (by simpa using loads)
    exact (Option.some.inj installed).symm
  · rintro ⟨leavesPair, leavesOwn⟩
    have saved := (match_saveCertificate isMatch disk).mpr leavesPair
    by_cases same : name = userDefined
    · subst same
      have own := (own_saveCertificate isMatch leavesPair).mpr (leavesOwn rfl)
      refine ⟨?_, ?_, fun other => ?_⟩
      · simp
      · simp only [Store.put_files_self, if_true]
        intro found loads
        rw [own found loads]
      · by_cases custom : other = userDefined
        · subst custom
          simpa using saved
        · simpa only [Store.put_files_of_ne custom] using sound.files other
    · have others := Ne.symm same
      refine ⟨?_, ?_, fun other => ?_⟩
      · simpa only [Store.put_certificates_of_ne others, if_neg same]
          using sound.memory
      · simpa only [Store.put_files_of_ne others, if_neg same] using sound.disk
      · by_cases own : other = name
        · subst own
          simpa using saved
        · simpa only [Store.put_files_of_ne own] using sound.files other

theorem Sound.putAll (sound : Sound system) {saves : List (Save library)}
    (nodup : (saves.map Save.name).Nodup)
    (others : userDefined ∉ saves.map Save.name) :
    Sound { system with store := system.store.putAll saves } ↔
      ∀ save ∈ saves,
        LeavesPair (system.store.files save.name) save.certificate save.disk := by
  have custom := @Store.putAll_of_not_mem _ _ _ system.store _ _ others
  constructor
  · intro kept save isSave
    have files := kept.files save.name
    rw [(Store.putAll_of_mem nodup isSave).1] at files
    exact (match_saveCertificate (sound.files save.name) save.disk).mp files
  · intro leavesPair
    refine ⟨?_, ?_, fun name => ?_⟩
    · rw [custom.2]
      exact sound.memory
    · rw [custom.1]
      exact sound.disk
    · by_cases saved : name ∈ saves.map Save.name
      · obtain ⟨save, isSave, rfl⟩ := List.mem_map.mp saved
        rw [(Store.putAll_of_mem nodup isSave).1]
        exact (match_saveCertificate (sound.files save.name) save.disk).mpr
          (leavesPair save isSave)
      · rw [(Store.putAll_of_not_mem saved).1]
        exact sound.files name

theorem Sound.handshake (sound : Sound system) (handshake : Handshake library) :
    (LeavesCustom system (.handshake handshake) ∧
      Sound { system with store := (system.store.getCertificate handshake).1 }) ↔
      Harmless system (.handshake handshake) := by
  by_cases selfSigned : handshake.isSelfSigned
  · have stored : (system.store.getCertificate handshake).1 =
        system.store.putAll (system.store.saves handshake.name handshake.ca
          handshake.making) := by
      rw [Store.getCertificate, if_pos selfSigned, Store.createSelfSignedCert_eq]
    have served : ∀ entry ∈ (system.store.getCertificate handshake).2,
        entry.name = handshake.name ∧ (system.store.putAll (system.store.saves
          handshake.name handshake.ca handshake.making)).certificates
            handshake.name = some entry.certificate := by
      intro entry isServed
      rw [Store.getCertificate, if_pos selfSigned] at isServed
      rw [← Store.createSelfSignedCert_eq]
      exact Store.createSelfSignedCert_served isServed
    simp only [LeavesCustom, Harmless, stored, selfSigned, forall_const]
    constructor
    · rintro ⟨⟨unchanged, apart⟩, kept⟩
      have absent : handshake.name = userDefined →
          system.store.certificates userDefined = none := by
        intro asked
        by_contra present
        obtain ⟨found, isFound⟩ := Option.ne_none_iff_exists'.mp present
        refine (apart ⟨userDefined, found⟩ ?_).1 rfl
        rw [Store.getCertificate, if_pos selfSigned, asked,
          Store.createSelfSignedCert, isFound]
        rfl
      have others : userDefined ∉ (system.store.saves handshake.name
          handshake.ca handshake.making).map Save.name := by
        intro saved
        obtain ⟨save, isSave, named⟩ := List.mem_map.mp saved
        have created := (@Store.putAll_of_mem _ _ _ system.store _
          Store.nodup_saves _ isSave).2
        rw [named, unchanged] at created
        rcases Store.name_of_mem_saves isSave with isCA | own
        · exact absurd (named.symm.trans isCA) (by decide)
        · rw [absent (own.symm.trans named)] at created
          cases created
      refine ⟨absent, fun save isSave => ⟨?_, ?_⟩⟩
      · exact fun named => others (named ▸ List.mem_map_of_mem isSave)
      · exact (sound.putAll Store.nodup_saves others).mp kept save isSave
    · rintro ⟨absent, harmless⟩
      have others : userDefined ∉ (system.store.saves handshake.name
          handshake.ca handshake.making).map Save.name := by
        intro saved
        obtain ⟨save, isSave, named⟩ := List.mem_map.mp saved
        exact (harmless save isSave).1 named
      have unchanged := (@Store.putAll_of_not_mem _ _ _ system.store _ _ others).2
      refine ⟨⟨unchanged, fun entry isServed => ?_⟩, ?_⟩
      · obtain ⟨named, listed⟩ := served entry isServed
        refine ⟨fun custom => ?_, named ▸ listed⟩
        have asked := named.symm.trans custom
        rw [asked] at listed
        rw [asked, listed, absent asked] at unchanged
        cases unchanged
      · exact (sound.putAll Store.nodup_saves others).mpr fun save isSave =>
          (harmless save isSave).2
  · have stored : (system.store.getCertificate handshake).1 = system.store := by
      rw [Store.getCertificate, if_neg selfSigned]
      split_ifs <;> rfl
    simp [LeavesCustom, Harmless, stored, selfSigned, sound]

theorem Sound.restart (sound : Sound system) (listed : Bool)
    (readable : Name → Bool) :
    Sound { system with store := system.store.loadCertificates listed readable }
    where
  memory certificate loaded := by
    simp only [Store.loadCertificates] at loaded
    split_ifs at loaded
    exact sound.disk certificate loaded
  disk := sound.disk
  files := sound.files

theorem decides (sound : Sound system)
    (taken : step system label = some next) :
    LeavesCustom system label ∧ Sound next ↔ Harmless system label := by
  cases label with
  | validateAndSave name parsed ignoreWarning disk =>
      simp only [step] at taken
      cases isAccepted : accepted name parsed ignoreWarning with
      | none =>
          rw [isAccepted] at taken
          cases taken
          simp [LeavesCustom, Harmless, isAccepted, sound]
      | some certificate =>
          rw [isAccepted] at taken
          cases taken
          simp only [LeavesCustom, Harmless, isAccepted, true_and,
            sound.put name certificate disk, Option.mem_some_iff, forall_eq']
  | handshake handshake =>
      cases taken
      exact sound.handshake handshake
  | restart listed readable =>
      cases taken
      exact iff_of_true ⟨trivial, sound.restart listed readable⟩ trivial

end Steps

theorem sound_initial : Sound ({} : System library) where
  memory := nofun
  disk := nofun
  files _ := .inl ⟨rfl, rfl⟩

/-- The custom certificate is the one that was installed, and handshakes leave
it alone, exactly in the runs of harmless steps. -/
theorem leavesCustom_and_sound_iff_harmless (library : Library Der Key)
    (labels : List (Label library)) :
    (AllSteps step LeavesCustom {} labels ∧ AllStates step Sound {} labels) ↔
      AllSteps step Harmless {} labels :=
  @allSteps_and_allStates_iff_of_decides (System library) (Label library) step
    Sound Harmless LeavesCustom decides {} sound_initial labels

/-- Certificates are numbered as their keys, which are all ECDSA, and every name
without a separator is as it should be. -/
def numbered : Library Nat Nat where
  keyType _ := .ecdsa
  isPair der key := der = key
  verifyHostname _ _ := true
  toASCII text :=
    if noSeparator : '/' ∉ text.toList then some ⟨text, noSeparator⟩ else none

def made (key : Nat) : Making numbered where
  made := some ⟨⟨key, [], key, decide_eq_true rfl⟩, rfl⟩

/-- A client asks for the server name `user-defined`. -/
def askForCustom : Handshake numbered where
  mode := .selfSigned
  timeSynced := true
  serverName := "user-defined"
  localAddr := "192.168.1.9:443"
  ca := made 0
  making := made 1

theorem askForCustom_not_sound :
    ¬ ∀ (library : Library Nat Nat) (labels : List (Label library)),
      AllSteps step LeavesCustom {} labels ∧ AllStates step Sound {} labels := by
  intro everywhere
  obtain ⟨-, sound⟩ := everywhere numbered [.handshake askForCustom]
  have created := (sound.2 _ rfl).first.memory ⟨1, [], 1, rfl⟩ rfl
  cases created

end Certificates

end WebSecure

end JetKvm
