import JetKvm.BrowserHidReports
import JetKvm.UsbKeyboardKeysDown

/-!
# HID-RPC messages between the browser and the device

Translation of the message classes of `ui/src/hooks/hidRpc.ts` and of the
constructors and `Marshal` in `internal/hidrpc`.  The two codecs are written
independently: the browser computes with JavaScript numbers, which its shifts
and masks turn into 32-bit integers and `Uint8Array` into bytes, the device
with Go's fixed-width integers.  Each decodes what the other encodes.
-/

namespace JetKvm

namespace UsbGadget

def keyboardLedMaskNumLock : UInt8 := (1 : UInt8) <<< 0
def keyboardLedMaskCapsLock : UInt8 := (1 : UInt8) <<< 1
def keyboardLedMaskScrollLock : UInt8 := (1 : UInt8) <<< 2
def keyboardLedMaskCompose : UInt8 := (1 : UInt8) <<< 3
def keyboardLedMaskKana : UInt8 := (1 : UInt8) <<< 4
def keyboardLedMaskShift : UInt8 := (1 : UInt8) <<< 6

structure KeyboardState where
  numLock : Bool
  capsLock : Bool
  scrollLock : Bool
  compose : Bool
  kana : Bool
  shift : Bool
  raw : UInt8
  deriving DecidableEq, Repr

/-- The only way a `KeyboardState` is made. -/
def getKeyboardState (b : UInt8) : KeyboardState where
  numLock := b &&& keyboardLedMaskNumLock ≠ 0
  capsLock := b &&& keyboardLedMaskCapsLock ≠ 0
  scrollLock := b &&& keyboardLedMaskScrollLock ≠ 0
  compose := b &&& keyboardLedMaskCompose ≠ 0
  kana := b &&& keyboardLedMaskKana ≠ 0
  shift := b &&& keyboardLedMaskShift ≠ 0
  raw := b

end UsbGadget

namespace HidRpc

/-! ## The device encodes -/

/-- `Marshal` -/
def Message.marshal (m : Message) : Except String (List UInt8) :=
  if m.t = 0 then .error (invalidMessageType m.t)
  else .ok (m.t :: m.d.elements)

def newKeyboardLedMessage (state : UsbGadget.KeyboardState) : Message :=
  ⟨typeKeyboardLedState, ⟨[state.raw], []⟩⟩

def newKeydownStateMessage (state : UsbGadget.KeysDownState) : Message :=
  ⟨typeKeydownState, ⟨state.modifier :: state.keys, []⟩⟩

def newKeyboardMacroStateMessage (state isPaste : Bool) : Message :=
  ⟨typeKeyboardMacroState,
    ⟨[if state then 1 else 0, if isPaste then 1 else 0], []⟩⟩

/-- `Unmarshal` and the accessor of the message type. -/
def received {α : Type} (accessor : Message → Outcome (Except String α))
    (data : Slice UInt8) : Outcome (Except String α) := do
  match ← unmarshal data with
  | .error error => return .error error
  | .ok message => accessor message

namespace Browser

/-! ## Numbers -/

/-- `ToInt32` -/
def toInt32 (n : Int) : Int := n.bmod (2 ^ 32)

/-- `n >> shift` -/
def shiftRight (n : Int) (shift : Nat) : Int := toInt32 n >>> shift

/-- `n & 0xff` -/
def lowByte (n : Int) : Int := toInt32 n % 256

/-- `n >>> 0` -/
def toUint32 (n : Int) : Int := n % 2 ^ 32

/-- `new Uint8Array(values)` -/
def uint8Array (values : List Int) : List UInt8 :=
  values.map UInt8.ofInt

def withinUint8Range (value : Int) : Bool :=
  decide (value ≥ 0) && decide (value ≤ 255)

def fromInt32toUint8 (n : Int) : Except String (List UInt8) :=
  if n ≠ shiftRight n 0 then
    .error s!"Number {n} is not within the int32 range"
  else
    .ok (uint8Array [lowByte (shiftRight n 24), lowByte (shiftRight n 16),
      lowByte (shiftRight n 8), lowByte n])

def fromUint16toUint8 (n : Int) : Except String (List UInt8) :=
  if n > 65535 ∨ n < 0 then
    .error s!"Number {n} is not within the uint16 range"
  else .ok (uint8Array [lowByte (shiftRight n 8), lowByte n])

def fromUint32toUint8 (n : Int) : Except String (List UInt8) :=
  if n > 4294967295 ∨ n < 0 then
    .error s!"Number {n} is not within the uint32 range"
  else
    .ok (uint8Array [lowByte (shiftRight n 24), lowByte (shiftRight n 16),
      lowByte (shiftRight n 8), lowByte n])

def fromInt8ToUint8 (n : Int) : Except String Int :=
  if n < -128 ∨ n > 127 then
    .error s!"Number {n} is not within the int8 range"
  else .ok (lowByte n)

/-! ## The browser encodes -/

namespace MessageTypes

def handshake : Int := 0x01
def keyboardReport : Int := 0x02
def pointerReport : Int := 0x03
def keypressReport : Int := 0x05
def keypressKeepAliveReport : Int := 0x09
def mouseReport : Int := 0x06
def keyboardMacroReport : Int := 0x07
def cancelKeyboardMacroReport : Int := 0x08
def gamepadReport : Int := 0x0a
def keyboardLedState : Int := 0x32
def keysDownState : Int := 0x33
def keyboardMacroState : Int := 0x34

end MessageTypes

def outOfRange (field : String) (value : Int) : String :=
  s!"{field} {value} is not within the uint8 range"

/-- The first value that is not a byte stops the message. -/
def checkBytes (field : String) (values : List Int) : Except String Unit :=
  match values.find? fun value => !withinUint8Range value with
  | some value => .error (outOfRange field value)
  | none => .ok ()

structure KeypressReportMessage where
  key : Int
  press : Bool

/-- The constructor, which sets the key through its setter. -/
def KeypressReportMessage.new (key : Int) (press : Bool) :
    Except String KeypressReportMessage := do
  checkBytes "Key" [key]
  return ⟨key, press⟩

def KeypressReportMessage.marshal (message : KeypressReportMessage) :
    List UInt8 :=
  uint8Array [MessageTypes.keypressReport, message.key,
    if message.press then 1 else 0]

structure KeyboardReportMessage where
  keys : List Int
  modifier : Int

def KeyboardReportMessage.new (keys : List Int) (modifier : Int) :
    Except String KeyboardReportMessage := do
  checkBytes "Key" keys
  checkBytes "Modifier" [modifier]
  return ⟨keys, modifier⟩

def KeyboardReportMessage.marshal (message : KeyboardReportMessage) :
    List UInt8 :=
  uint8Array
    (MessageTypes.keyboardReport :: message.modifier :: message.keys)

structure KeyboardMacroStep where
  modifier : Int
  keys : List Int
  delay : Int

structure KeyboardMacroReportMessage where
  isPaste : Bool
  stepCount : Int
  steps : List KeyboardMacroStep

/-- The keys of a step with zeros pushed up to `KEYS_LENGTH`. -/
def padKeys (keys : List Int) : List Int :=
  keys ++ List.replicate (hidKeyBufferSize - keys.length) 0

/-- One pass of the loop of `KeyboardMacroReportMessage.marshal`. -/
def KeyboardMacroStep.marshal (step : KeyboardMacroStep) :
    Except String (List UInt8) := do
  checkBytes "Modifier" [step.modifier]
  if step.keys.length > hidKeyBufferSize then
    let keys := ",".intercalate (step.keys.map toString)
    throw s!"Keys {keys} is not within the hidKeyBufferSize range"
  let keys := padKeys step.keys
  checkBytes "Key" keys
  return uint8Array (step.modifier :: keys) ++ (← fromUint16toUint8 step.delay)

/-- The steps fill the array after the header without gaps. -/
def KeyboardMacroReportMessage.marshal (message : KeyboardMacroReportMessage) :
    Except String (List UInt8) := do
  if message.stepCount ≠ message.steps.length then
    let count := message.steps.length
    throw s!"Length {message.stepCount} is not equal to the number of steps {count}"
  let stepCount ← fromUint32toUint8 message.stepCount
  let steps ← message.steps.mapM KeyboardMacroStep.marshal
  return uint8Array [MessageTypes.keyboardMacroReport,
    if message.isPaste then 1 else 0] ++ stepCount ++ steps.flatten

structure PointerReportMessage where
  x : Int
  y : Int
  buttons : Int

def PointerReportMessage.marshal (message : PointerReportMessage) :
    Except String (List UInt8) := do
  let x ← fromInt32toUint8 message.x
  let y ← fromInt32toUint8 message.y
  return uint8Array [MessageTypes.pointerReport] ++ x ++ y ++
    uint8Array [message.buttons]

structure MouseReportMessage where
  dx : Int
  dy : Int
  buttons : Int

def MouseReportMessage.marshal (message : MouseReportMessage) :
    Except String (List UInt8) := do
  let dx ← fromInt8ToUint8 message.dx
  let dy ← fromInt8ToUint8 message.dy
  return uint8Array [MessageTypes.mouseReport, dx, dy, message.buttons]

structure GamepadReportMessage where
  padIndex : Int
  lx : Int
  ly : Int
  rx : Int
  ry : Int
  lt : Int
  rt : Int
  buttons : Int

def GamepadReportMessage.new (padIndex lx ly rx ry lt rt buttons : Int) :
    Except String GamepadReportMessage :=
  if padIndex < 0 ∨ padIndex ≥ Gamepad.maxGamepads then
    let last := Gamepad.maxGamepads - 1
    .error s!"Pad index {padIndex} is not within [0, {last}]"
  else .ok ⟨padIndex, lx, ly, rx, ry, lt, rt, toUint32 buttons⟩

def GamepadReportMessage.marshal (message : GamepadReportMessage) :
    Except String (List UInt8) := do
  checkBytes "Gamepad axis/trigger" [message.lx, message.ly, message.rx,
    message.ry, message.lt, message.rt]
  let buttons ← fromUint32toUint8 message.buttons
  return uint8Array [MessageTypes.gamepadReport, message.padIndex, message.lx,
    message.ly, message.rx, message.ry, message.lt, message.rt] ++ buttons

/-! ## The browser decodes -/

structure KeyboardLedState where
  numLock : Bool
  capsLock : Bool
  scrollLock : Bool
  compose : Bool
  kana : Bool
  shift : Bool
  deriving DecidableEq, Repr

namespace KeyboardLedStateMasks

def numLock : UInt8 := (1 : UInt8) <<< 0
def capsLock : UInt8 := (1 : UInt8) <<< 1
def scrollLock : UInt8 := (1 : UInt8) <<< 2
def compose : UInt8 := (1 : UInt8) <<< 3
def kana : UInt8 := (1 : UInt8) <<< 4
def shift : UInt8 := (1 : UInt8) <<< 6

end KeyboardLedStateMasks

/-- The messages some class of the registry unmarshals. -/
inductive RpcMessage where
  | handshake (version : UInt8)
  | keysDownState (modifier : UInt8) (keys : List UInt8)
  | keyboardLedState (state : KeyboardLedState)
  | keyboardReport (keys : List UInt8) (modifier : UInt8)
  | keypressReport (key : UInt8) (press : Bool)
  | keyboardMacroState (state isPaste : Bool)
  deriving DecidableEq, Repr

/-- Each `unmarshal` reads the first byte and refuses an empty payload. -/
def unmarshalWith (name : String) (make : UInt8 → List UInt8 → RpcMessage) :
    List UInt8 → Except String RpcMessage
  | [] => .error s!"Invalid {name} length: 0"
  | first :: rest => .ok (make first rest)

def HandshakeMessage.unmarshal : List UInt8 → Except String RpcMessage :=
  unmarshalWith "handshake message" fun version _ => .handshake version

def KeypressReportMessage.unmarshal : List UInt8 → Except String RpcMessage :=
  unmarshalWith "keypress report message" fun key rest =>
    .keypressReport key (rest.head? == some 1)

def KeyboardReportMessage.unmarshal : List UInt8 → Except String RpcMessage :=
  unmarshalWith "keyboard report message" fun modifier keys =>
    .keyboardReport keys modifier

def KeyboardMacroStateMessage.unmarshal :
    List UInt8 → Except String RpcMessage :=
  unmarshalWith "keyboard macro state report message" fun state rest =>
    .keyboardMacroState (state == 1) (rest.head? == some 1)

def KeyboardLedStateMessage.unmarshal : List UInt8 → Except String RpcMessage :=
  unmarshalWith "keyboard led state message" fun s _ =>
    .keyboardLedState
      { numLock := s &&& KeyboardLedStateMasks.numLock ≠ 0
        capsLock := s &&& KeyboardLedStateMasks.capsLock ≠ 0
        scrollLock := s &&& KeyboardLedStateMasks.scrollLock ≠ 0
        compose := s &&& KeyboardLedStateMasks.compose ≠ 0
        kana := s &&& KeyboardLedStateMasks.kana ≠ 0
        shift := s &&& KeyboardLedStateMasks.shift ≠ 0 }

def KeysDownStateMessage.unmarshal : List UInt8 → Except String RpcMessage :=
  unmarshalWith "keys down state message" fun modifier keys =>
    .keysDownState modifier keys

/-- The registered classes without an `unmarshal` of their own inherit the one
of `RpcMessage`. -/
def notImplemented (_ : List UInt8) : Except String RpcMessage :=
  .error "Not implemented"

def messageRegistry :
    List (Int × (List UInt8 → Except String RpcMessage)) :=
  [(MessageTypes.handshake, HandshakeMessage.unmarshal),
    (MessageTypes.keysDownState, KeysDownStateMessage.unmarshal),
    (MessageTypes.keyboardLedState, KeyboardLedStateMessage.unmarshal),
    (MessageTypes.keyboardReport, KeyboardReportMessage.unmarshal),
    (MessageTypes.keypressReport, KeypressReportMessage.unmarshal),
    (MessageTypes.keyboardMacroReport, notImplemented),
    (MessageTypes.cancelKeyboardMacroReport, notImplemented),
    (MessageTypes.keyboardMacroState, KeyboardMacroStateMessage.unmarshal),
    (MessageTypes.keypressKeepAliveReport, notImplemented)]

def unmarshalHidRpcMessage : List UInt8 → Except String RpcMessage
  | [] => .error "Invalid HID RPC message length: 0"
  | messageType :: payload =>
      match messageRegistry.lookup (messageType.toNat : Int) with
      | none => .error s!"Unknown HID RPC message type: {messageType}"
      | some unmarshal => unmarshal payload

/-! ## Bytes of JavaScript numbers -/

@[simp]
theorem uint8_ofInt_natCast (byte : UInt8) :
    UInt8.ofInt (byte.toNat : Int) = byte := by
  apply UInt8.toNat_inj.mp
  have bound := byte.toNat_lt
  simp [UInt8.ofInt]
  omega

theorem uint8Array_bytes (bytes : List UInt8) :
    uint8Array (bytes.map fun byte => (byte.toNat : Int)) = bytes := by
  simp [uint8Array, Function.comp_def]

@[simp]
theorem uint8_ofInt_flag (flag : Bool) :
    UInt8.ofInt (if flag then 1 else 0) = if flag then 1 else 0 := by
  cases flag <;> rfl

theorem uint8_ofInt_lowByte (n : Int) :
    UInt8.ofInt (lowByte n) = (UInt32.ofInt n).toUInt8 := by
  apply UInt8.toNat_inj.mp
  simp only [UInt8.ofInt, lowByte, toInt32, UInt32.ofInt, Int.bmod_def]
  simp
  omega

/-- The bytes a number is split into, taken in JavaScript and in Go. -/
theorem uint8Array_lowBytes (n : Int) :
    uint8Array [lowByte (shiftRight n 24), lowByte (shiftRight n 16),
      lowByte (shiftRight n 8), lowByte n] =
      HidRpc.fromUint32toUint8 (UInt32.ofInt n) := by
  have shifted : ∀ bits ∈ [(8, 8), (16, 16), ((24 : Nat), (24 : UInt32))],
      UInt8.ofInt (lowByte (shiftRight n bits.1)) =
        (UInt32.ofInt n >>> bits.2).toUInt8 := by
    simp only [List.forall_mem_cons, List.not_mem_nil, false_implies,
      implies_true, and_true]
    refine ⟨?_, ?_, ?_⟩
    all_goals
      apply UInt8.toNat_inj.mp
      simp only [UInt8.ofInt, lowByte, shiftRight, toInt32, UInt32.ofInt,
        Int.shiftRight_eq_div_pow, Int.bmod_def]
      simp [Nat.shiftRight_eq_div_pow]
      omega
  simp only [List.forall_mem_cons] at shifted
  obtain ⟨third, second, first, -⟩ := shifted
  simp [uint8Array, HidRpc.fromUint32toUint8, first, second, third,
    uint8_ofInt_lowByte]

theorem fromUint32toUint8_toNat (n : UInt32) :
    fromUint32toUint8 n.toNat = .ok (HidRpc.fromUint32toUint8 n) := by
  have bound := n.toNat_lt
  have same : UInt32.ofInt n.toNat = n := by
    apply UInt32.toNat_inj.mp
    simp [UInt32.ofInt]
    omega
  unfold fromUint32toUint8
  rw [if_neg (by omega), uint8Array_lowBytes, same]

theorem fromInt32toUint8_toInt (n : Int32) :
    fromInt32toUint8 n.toInt = .ok (HidRpc.fromInt32toUint8 n) := by
  have low := n.le_toInt
  have high := n.toInt_lt
  have unchanged : n.toInt = shiftRight n.toInt 0 := by
    simp only [shiftRight, toInt32, Int.shiftRight_zero, Int.bmod_def]
    omega
  have same : UInt32.ofInt n.toInt = n.toUInt32 := by
    have signed : n.toInt = (n.toUInt32.toNat : Int).bmod (2 ^ 32) :=
      BitVec.toInt_eq_toNat_bmod n.toBitVec
    have bound := n.toUInt32.toNat_lt
    apply UInt32.toNat_inj.mp
    rw [signed, Int.bmod_def]
    simp [UInt32.ofInt]
    omega
  unfold fromInt32toUint8
  rw [if_neg (not_not.mpr unchanged), uint8Array_lowBytes, same]
  rfl

theorem fromUint16toUint8_toNat (n : UInt16) :
    fromUint16toUint8 n.toNat = .ok [(n >>> 8).toUInt8, n.toUInt8] := by
  have bound := n.toNat_lt
  have high : UInt8.ofInt (lowByte (shiftRight n.toNat 8)) =
      (n >>> 8).toUInt8 := by
    apply UInt8.toNat_inj.mp
    simp only [UInt8.ofInt, lowByte, shiftRight, toInt32,
      Int.shiftRight_eq_div_pow, Int.bmod_def]
    simp [Nat.shiftRight_eq_div_pow]
    omega
  have low : UInt8.ofInt (lowByte n.toNat) = n.toUInt8 := by
    apply UInt8.toNat_inj.mp
    simp only [UInt8.ofInt, lowByte, toInt32, Int.bmod_def]
    simp
    omega
  unfold fromUint16toUint8
  rw [if_neg (by omega)]
  simp only [uint8Array, List.map_cons, List.map_nil, high, low]

theorem uint8_ofInt_lowByte_toInt (n : Int8) :
    UInt8.ofInt (lowByte n.toInt) = n.toUInt8 := by
  have signed : n.toInt = (n.toUInt8.toNat : Int).bmod (2 ^ 8) :=
    BitVec.toInt_eq_toNat_bmod n.toBitVec
  have bound := n.toUInt8.toNat_lt
  apply UInt8.toNat_inj.mp
  rw [signed, lowByte, toInt32, Int.bmod_def, Int.bmod_def]
  simp [UInt8.ofInt]
  omega

theorem fromInt8ToUint8_toInt (n : Int8) :
    fromInt8ToUint8 n.toInt = .ok (lowByte n.toInt) := by
  have low := n.le_toInt
  have high := n.toInt_lt
  exact if_neg (by omega)

theorem checkBytes_bytes (field : String) (bytes : List UInt8) :
    checkBytes field (bytes.map fun byte => (byte.toNat : Int)) = .ok () := by
  have within : (bytes.map fun byte => (byte.toNat : Int)).find?
      (fun value => !withinUint8Range value) = none := by
    rw [List.find?_eq_none]
    intro value member
    obtain ⟨byte, -, rfl⟩ := List.mem_map.mp member
    have bound := byte.toNat_lt
    simp [withinUint8Range]
    omega
  rw [checkBytes, within]

theorem mapM_eq_ok {α β : Type} {f : α → Except String β} {g : α → β}
    {elements : List α} (each : ∀ element ∈ elements, f element = .ok (g element)) :
    elements.mapM f = .ok (elements.map g) := by
  induction elements with
  | nil => rfl
  | cons element rest holds =>
      rw [List.mapM_cons, each element (List.mem_cons_self ..),
        holds fun other member => each other (List.mem_cons_of_mem _ member)]
      rfl

/-! ## From the browser to the device -/

theorem received_cons {α : Type}
    (accessor : Message → Outcome (Except String α)) (t : MessageType)
    (payload spare : List UInt8) :
    received accessor ⟨t :: payload, spare⟩ = accessor ⟨t, ⟨payload, spare⟩⟩ :=
  rfl

/-- The browser marshals a message without an error, and in whatever buffer its
bytes arrive the device decodes the value. -/
def DeviceDecodes {α : Type} (accessor : Message → Outcome (Except String α))
    (marshalled : Except String (List UInt8)) (value : α) : Prop :=
  ∃ bytes, marshalled = .ok bytes ∧
    ∀ spare, received accessor ⟨bytes, spare⟩ = .ok (.ok value)

theorem keypressReport_round_trip (key : UInt8) (press : Bool) :
    DeviceDecodes Message.keypressReport
      (return (← KeypressReportMessage.new key.toNat press).marshal)
      ⟨key, press⟩ := by
  have accepted := checkBytes_bytes "Key" [key]
  have sameType :
      UInt8.ofInt MessageTypes.keypressReport = typeKeypressReport := rfl
  have bytes : (KeypressReportMessage.mk key.toNat press).marshal =
      [typeKeypressReport, key, if press then 1 else 0] := by
    simp [KeypressReportMessage.marshal, uint8Array, sameType]
  simp only [List.map_cons, List.map_nil] at accepted
  refine ⟨[typeKeypressReport, key, if press then 1 else 0], ?_, ?_⟩
  · rw [KeypressReportMessage.new, accepted, ← bytes]
    rfl
  · intro spare
    rw [received_cons]
    cases press <;> rfl

theorem keyboardReport_round_trip (keys : List UInt8) (modifier : UInt8) :
    DeviceDecodes Message.keyboardReport
      (return (← KeyboardReportMessage.new
        (keys.map fun key => (key.toNat : Int)) modifier.toNat).marshal)
      ⟨modifier, keys⟩ := by
  have acceptedKeys := checkBytes_bytes "Key" keys
  have acceptedModifier := checkBytes_bytes "Modifier" [modifier]
  have bytes : (KeyboardReportMessage.mk
      (keys.map fun key => (key.toNat : Int)) modifier.toNat).marshal =
      typeKeyboardReport :: modifier :: keys :=
    uint8Array_bytes (typeKeyboardReport :: modifier :: keys)
  simp only [List.map_cons, List.map_nil] at acceptedModifier
  refine ⟨typeKeyboardReport :: modifier :: keys, ?_, ?_⟩
  · rw [KeyboardReportMessage.new, acceptedKeys, acceptedModifier, ← bytes]
    rfl
  · intro spare
    rfl

/-- The bytes of the typed pointer report. -/
theorem PointerReportMessage.marshal_toInt (x y : Int32) (buttons : UInt8) :
    (PointerReportMessage.mk x.toInt y.toInt buttons.toNat).marshal =
      .ok (Report.pointer x y buttons).marshal := by
  have last := uint8Array_bytes [buttons]
  simp only [List.map_cons, List.map_nil] at last
  simp only [PointerReportMessage.marshal, fromInt32toUint8_toInt, last]
  rfl

theorem pointerReport_round_trip (x y : Int32) (buttons : UInt8) :
    DeviceDecodes Message.pointerReport
      (PointerReportMessage.mk x.toInt y.toInt buttons.toNat).marshal
      ⟨x, y, buttons⟩ := by
  refine ⟨_, PointerReportMessage.marshal_toInt x y buttons, ?_⟩
  intro spare
  rw [Report.marshal, received_cons]
  exact pointerReport_marshal x y buttons spare

theorem mouseReport_round_trip (dx dy : Int8) (buttons : UInt8) :
    DeviceDecodes Message.mouseReport
      (MouseReportMessage.mk dx.toInt dy.toInt buttons.toNat).marshal
      ⟨dx, dy, buttons⟩ := by
  refine ⟨[typeMouseReport, dx.toUInt8, dy.toUInt8, buttons], ?_, ?_⟩
  · have sameType : UInt8.ofInt MessageTypes.mouseReport = typeMouseReport :=
      rfl
    simp only [MouseReportMessage.marshal, fromInt8ToUint8_toInt]
    simp [uint8Array, uint8_ofInt_lowByte_toInt, sameType, bind, Except.bind,
      pure, Except.pure]
  · intro spare
    rfl

/-- The bytes of the typed gamepad report. -/
theorem GamepadReportMessage.marshal_new (padIndex : Fin Gamepad.maxGamepads)
    (lx ly rx ry lt rt : UInt8) (buttons : UInt32) :
    (do (← GamepadReportMessage.new padIndex.val lx.toNat ly.toNat rx.toNat
        ry.toNat lt.toNat rt.toNat buttons.toNat).marshal) =
      .ok (Report.gamepad padIndex lx ly rx ry lt rt buttons).marshal := by
  have unsigned : toUint32 buttons.toNat = buttons.toNat := by
    have bound := buttons.toNat_lt
    unfold toUint32
    omega
  have slot : (padIndex.val : Int) = (UInt8.ofNat padIndex).toNat := by
    revert padIndex
    decide
  have inside := padIndex.isLt
  have created : GamepadReportMessage.new padIndex.val lx.toNat ly.toNat
      rx.toNat ry.toNat lt.toNat rt.toNat buttons.toNat =
        .ok ⟨(UInt8.ofNat padIndex).toNat, lx.toNat, ly.toNat, rx.toNat,
          ry.toNat, lt.toNat, rt.toNat, buttons.toNat⟩ := by
    unfold GamepadReportMessage.new
    rw [if_neg (by omega), unsigned, slot]
  have bytes := uint8Array_bytes
    [typeGamepadReport, UInt8.ofNat padIndex, lx, ly, rx, ry, lt, rt]
  have accepted := checkBytes_bytes "Gamepad axis/trigger"
    [lx, ly, rx, ry, lt, rt]
  have sameType : MessageTypes.gamepadReport = (typeGamepadReport.toNat : Int) :=
    rfl
  simp only [List.map_cons, List.map_nil] at accepted bytes
  simp only [created, GamepadReportMessage.marshal, accepted,
    fromUint32toUint8_toNat, sameType, bytes, bind, Except.bind]
  rfl

theorem gamepadReport_round_trip (padIndex : Fin Gamepad.maxGamepads)
    (lx ly rx ry lt rt : UInt8) (buttons : UInt32) :
    DeviceDecodes Message.gamepadReport
      (do (← GamepadReportMessage.new padIndex.val lx.toNat ly.toNat rx.toNat
        ry.toNat lt.toNat rt.toNat buttons.toNat).marshal)
      ⟨UInt8.ofNat padIndex, lx, ly, rx, ry, lt, rt, buttons⟩ := by
  refine ⟨_, GamepadReportMessage.marshal_new padIndex lx ly rx ry lt rt
    buttons, ?_⟩
  intro spare
  rw [Report.marshal, received_cons]
  exact gamepadReport_marshal _ lx ly rx ry lt rt buttons spare

/-! ## Macros

The device reads each step at its offset, so a step is found where what is left
of the payload begins with its bytes. -/

end Browser

/-- The bytes of a step whose keys fill the buffer. -/
def KeyboardMacroStep.bytes (step : KeyboardMacroStep) : List UInt8 :=
  step.modifier :: step.keys ++ [(step.delay >>> 8).toUInt8, step.delay.toUInt8]

theorem bigEndianUint16_bytes (n : UInt16) (spare : List UInt8) :
    bigEndianUint16 ⟨[(n >>> 8).toUInt8, n.toUInt8], spare⟩ = .ok n := by
  have small := n.toNat_lt
  have lowByte : n.toNat % 2 ^ 8 < 2 ^ 8 := Nat.mod_lt _ (by decide)
  refine congrArg Except.ok (UInt16.toNat_inj.mp ?_)
  have shifted : (n.toNat >>> 8 % 2 ^ 8) <<< 8 % 2 ^ 16 =
      (n.toNat / 2 ^ 8) <<< 8 := by
    rw [Nat.shiftRight_eq_div_pow, Nat.shiftLeft_eq, Nat.shiftLeft_eq]
    omega
  simp only [UInt16.toNat_or, UInt16.toNat_shiftLeft, UInt8.toNat_toUInt16,
    UInt16.toNat_toUInt8, UInt16.toNat_shiftRight, UInt16.reduceToNat,
    Nat.reduceMod]
  rw [shifted, or_shiftLeft_of_lt lowByte]
  omega

theorem KeyboardMacroStep.length_bytes {step : KeyboardMacroStep}
    (filled : step.keys.length = hidKeyBufferSize) :
    step.bytes.length = 9 := by
  simp [KeyboardMacroStep.bytes, filled, hidKeyBufferSize]

theorem keyboardMacroStepAt_of_drop {d : Slice UInt8} {offset : Nat}
    {step : KeyboardMacroStep} {rest : List UInt8}
    (filled : step.keys.length = hidKeyBufferSize)
    (found : d.elements.drop offset = step.bytes ++ rest) :
    keyboardMacroStepAt d offset = .ok step := by
  obtain ⟨modifier, keys, delay⟩ := step
  have six : keys.length = 6 := filled
  have inside : offset + 9 ≤ d.length := by
    have lengths := congrArg List.length found
    rw [List.length_append, KeyboardMacroStep.length_bytes filled,
      List.length_drop] at lengths
    rw [Slice.length]
    omega
  have afterModifier : d.elements.drop (offset + 1) =
      keys ++ ([(delay >>> 8).toUInt8, delay.toUInt8] ++ rest) := by
    rw [← List.drop_drop, found]
    simp [KeyboardMacroStep.bytes]
  have afterKeys : d.elements.drop (offset + 7) =
      [(delay >>> 8).toUInt8, delay.toUInt8] ++ rest := by
    rw [show offset + 7 = offset + 1 + keys.length by omega,
      ← List.drop_drop, afterModifier, List.drop_left]
  have keysWindow := Slice.between_of_drop afterModifier (by omega)
  have delayWindow := Slice.between_of_drop afterKeys (by omega)
  have readModifier : d.index offset = .ok modifier :=
    Slice.index_of_drop found
  have readKeys : d.between (offset + 1) (offset + 7) = _ :=
    (congrArg (d.between (offset + 1)) (by omega)).trans keysWindow
  have readDelay : d.between (offset + 7) (offset + 9) = _ := delayWindow
  have decoded :=
    bigEndianUint16_bytes delay (rest ++ d.spare)
  simp only [keyboardMacroStepAt, readModifier, readKeys, readDelay, bind,
    Except.bind, decoded]
  rfl

theorem keyboardMacroSteps_of_drop {d : Slice UInt8}
    {steps : List KeyboardMacroStep} {offset : Nat}
    (filled : ∀ step ∈ steps, step.keys.length = hidKeyBufferSize)
    (found : d.elements.drop offset = steps.flatMap KeyboardMacroStep.bytes) :
    keyboardMacroSteps d steps.length offset = .ok steps := by
  induction steps generalizing offset with
  | nil => rfl
  | cons step rest holds =>
      have first := filled step (List.mem_cons_self ..)
      have afterStep : d.elements.drop (offset + (1 + hidKeyBufferSize + 2)) =
          rest.flatMap KeyboardMacroStep.bytes := by
        rw [← List.drop_drop, found, List.flatMap_cons]
        exact List.drop_left' (KeyboardMacroStep.length_bytes first)
      have others := holds
        (fun other member => filled other (List.mem_cons_of_mem _ member))
        afterStep
      rw [List.flatMap_cons] at found
      rw [List.length_cons, keyboardMacroSteps,
        keyboardMacroStepAt_of_drop first found, others]
      rfl

/-- The keys of a step with zeros up to the size of the buffer. -/
def KeyboardMacroStep.padded (step : KeyboardMacroStep) : KeyboardMacroStep :=
  { step with
    keys := step.keys ++
      List.replicate (hidKeyBufferSize - step.keys.length) 0 }

theorem keyboardMacroReport_bytes (isPaste : Bool)
    {steps : List KeyboardMacroStep} (spare : List UInt8)
    (filled : ∀ step ∈ steps, step.keys.length = hidKeyBufferSize)
    (few : steps.length < 2 ^ 26) :
    Message.keyboardMacroReport ⟨typeKeyboardMacroReport,
        ⟨(if isPaste then 1 else 0) ::
          (fromUint32toUint8 (UInt32.ofNat steps.length) ++
            steps.flatMap KeyboardMacroStep.bytes), spare⟩⟩ =
      .ok (.ok ⟨isPaste, UInt32.ofNat steps.length, steps⟩) := by
  let d : Slice UInt8 := ⟨(if isPaste then 1 else 0) ::
    (fromUint32toUint8 (UInt32.ofNat steps.length) ++
      steps.flatMap KeyboardMacroStep.bytes), spare⟩
  have counted : (UInt32.ofNat steps.length).toNat = steps.length := by
    simp
    omega
  have fits : keyboardMacroStepSize * (UInt32.ofNat steps.length).toNat < 2 ^ 32 := by
    rw [counted, keyboardMacroStepSize]
    omega
  have size : (steps.flatMap KeyboardMacroStep.bytes).length =
      9 * steps.length := by
    rw [List.length_flatMap, List.map_congr_left fun step member =>
      KeyboardMacroStep.length_bytes (filled step member)]
    simp [Nat.mul_comm]
  have complete : d.length = 9 * steps.length + 5 := by
    simp [d, Slice.length, fromUint32toUint8, size]
  have header : d.between 1 5 = _ :=
    @Slice.between_of_drop _ d 1
      (fromUint32toUint8 (UInt32.ofNat steps.length))
      (steps.flatMap KeyboardMacroStep.bytes) rfl (by omega)
  have decoded := @keyboardMacroSteps_of_drop d steps 5 filled rfl
  have readFlag : d.index 0 = .ok (if isPaste then 1 else 0) := rfl
  have readCount := bigEndianUint32_fromUint32toUint8
    (UInt32.ofNat steps.length) (steps.flatMap KeyboardMacroStep.bytes ++ spare)
  have made : makeSlice keyboardMacroStepSize
      (UInt32.ofNat steps.length).toInt32 = .ok () := by
    obtain ⟨made, makes⟩ :=
      (makeSlice_toInt32_returns_iff (by decide)).mpr fits
    exact makes
  have passes : (UInt32.ofNat steps.length).toInt32.toNatClampNeg =
      steps.length := by
    rw [Int32.toNatClampNeg, toInt_toInt32_of_lt (by omega),
      Int.toNat_natCast, counted]
  have body : keyboardMacroReportBody d (if isPaste then 1 else 0)
      (UInt32.ofNat steps.length) =
        .ok (.ok ⟨isPaste, UInt32.ofNat steps.length, steps⟩) := by
    have sameLength : (d.length : Int) =
        ((UInt32.ofNat steps.length).toInt32 * 9 + 5).toInt := by
      rw [expectedLength_of_lt fits, counted, complete]
      omega
    simp only [keyboardMacroReportBody, sameLength, ne_eq, not_true_eq_false,
      if_false, made, passes, decoded, bind, Except.bind]
    cases isPaste <;> rfl
  change Message.keyboardMacroReport ⟨typeKeyboardMacroReport, d⟩ = _
  have spareIsRest : d.spare = spare := rfl
  simp only [Message.keyboardMacroReport, ne_eq, not_true_eq_false, if_false,
    readFlag, header, spareIsRest, readCount, body, bind, Except.bind]

namespace Browser

/-- A step of the device as the browser has it. -/
def KeyboardMacroStep.ofBytes (step : HidRpc.KeyboardMacroStep) :
    KeyboardMacroStep where
  modifier := step.modifier.toNat
  keys := step.keys.map fun key => (key.toNat : Int)
  delay := step.delay.toNat

theorem KeyboardMacroStep.marshal_ofBytes (step : HidRpc.KeyboardMacroStep)
    (few : step.keys.length ≤ hidKeyBufferSize) :
    (ofBytes step).marshal = .ok step.padded.bytes := by
  have accepted := checkBytes_bytes "Modifier" [step.modifier]
  have padding : padKeys (ofBytes step).keys =
      step.padded.keys.map fun key => (key.toNat : Int) := by
    simp [padKeys, ofBytes, HidRpc.KeyboardMacroStep.padded]
  have acceptedKeys := checkBytes_bytes "Key" step.padded.keys
  have bytes := uint8Array_bytes (step.modifier :: step.padded.keys)
  have within : ¬ (ofBytes step).keys.length > hidKeyBufferSize := by
    simp [ofBytes]
    omega
  simp only [List.map_cons, List.map_nil] at accepted bytes
  have delayBytes := fromUint16toUint8_toNat step.delay
  have sameModifier : (ofBytes step).modifier = step.modifier.toNat := rfl
  have sameDelay : (ofBytes step).delay = step.delay.toNat := rfl
  simp only [KeyboardMacroStep.marshal, padding, if_neg within, sameModifier,
    sameDelay, accepted, acceptedKeys, delayBytes, bytes, bind, Except.bind]
  rfl

theorem keyboardMacroReport_round_trip (isPaste : Bool)
    (steps : List HidRpc.KeyboardMacroStep)
    (few : steps.length < 2 ^ 26)
    (short : ∀ step ∈ steps, step.keys.length ≤ hidKeyBufferSize) :
    DeviceDecodes Message.keyboardMacroReport
      (KeyboardMacroReportMessage.mk isPaste steps.length
        (steps.map KeyboardMacroStep.ofBytes)).marshal
      ⟨isPaste, UInt32.ofNat steps.length,
        steps.map HidRpc.KeyboardMacroStep.padded⟩ := by
  have counted : (UInt32.ofNat steps.length).toNat = steps.length := by
    simp
    omega
  have countBytes := fromUint32toUint8_toNat (UInt32.ofNat steps.length)
  rw [counted] at countBytes
  have stepBytes : (steps.map KeyboardMacroStep.ofBytes).mapM
      KeyboardMacroStep.marshal =
        .ok (steps.map fun step => step.padded.bytes) := by
    rw [List.mapM_map]
    exact mapM_eq_ok fun step member =>
      KeyboardMacroStep.marshal_ofBytes step (short step member)
  have sameCount : ¬ (steps.length : Int) ≠
      (steps.map KeyboardMacroStep.ofBytes).length := by
    simp
  have filled : ∀ step ∈ steps.map HidRpc.KeyboardMacroStep.padded,
      step.keys.length = hidKeyBufferSize := by
    intro padded member
    obtain ⟨step, inside, rfl⟩ := List.mem_map.mp member
    have bound := short step inside
    simp [HidRpc.KeyboardMacroStep.padded]
    omega
  refine ⟨typeKeyboardMacroReport :: (if isPaste then 1 else 0) ::
    (HidRpc.fromUint32toUint8 (UInt32.ofNat steps.length) ++
      (steps.map HidRpc.KeyboardMacroStep.padded).flatMap
        HidRpc.KeyboardMacroStep.bytes), ?_, ?_⟩
  · have sameType : UInt8.ofInt MessageTypes.keyboardMacroReport =
        typeKeyboardMacroReport := rfl
    simp only [KeyboardMacroReportMessage.marshal, if_neg sameCount,
      countBytes, stepBytes, bind, Except.bind]
    simp [uint8Array, sameType, List.flatMap_def, Function.comp_def, pure,
      Except.pure]
  · intro spare
    have decoded := keyboardMacroReport_bytes isPaste spare filled
      (by rwa [List.length_map])
    rw [List.length_map] at decoded
    rw [received_cons]
    exact decoded

/-! ## From the device to the browser -/

/-- The device marshals a message without an error and the browser decodes the
fields. -/
def BrowserDecodes (message : Message) (fields : RpcMessage) : Prop :=
  ∃ bytes, message.marshal = .ok bytes ∧
    unmarshalHidRpcMessage bytes = .ok fields

theorem keysDownState_round_trip (state : UsbGadget.KeysDownState) :
    BrowserDecodes (newKeydownStateMessage state)
      (.keysDownState state.modifier state.keys) :=
  ⟨_, rfl, rfl⟩

/-- The fields a keyboard state and the browser's message have in common. -/
def KeyboardLedState.ofKeyboardState (state : UsbGadget.KeyboardState) :
    KeyboardLedState where
  numLock := state.numLock
  capsLock := state.capsLock
  scrollLock := state.scrollLock
  compose := state.compose
  kana := state.kana
  shift := state.shift

theorem keyboardState_round_trip (b : UInt8) :
    BrowserDecodes (newKeyboardLedMessage (UsbGadget.getKeyboardState b))
      (.keyboardLedState
        (.ofKeyboardState (UsbGadget.getKeyboardState b))) :=
  ⟨_, rfl, rfl⟩

theorem keyboardMacroState_round_trip (state isPaste : Bool) :
    BrowserDecodes (newKeyboardMacroStateMessage state isPaste)
      (.keyboardMacroState state isPaste) := by
  cases state <;> cases isPaste <;> exact ⟨_, rfl, rfl⟩

/-- Each side decodes every message the other marshals to the fields it was
made of, the keys of a macro step filled up with zeros. -/
theorem codecs_round_trip :
    (∀ (key : UInt8) (press : Bool), DeviceDecodes Message.keypressReport
      (return (← KeypressReportMessage.new key.toNat press).marshal)
      ⟨key, press⟩) ∧
    (∀ (keys : List UInt8) (modifier : UInt8),
      DeviceDecodes Message.keyboardReport
        (return (← KeyboardReportMessage.new
          (keys.map fun key => (key.toNat : Int)) modifier.toNat).marshal)
        ⟨modifier, keys⟩) ∧
    (∀ (x y : Int32) (buttons : UInt8), DeviceDecodes Message.pointerReport
      (PointerReportMessage.mk x.toInt y.toInt buttons.toNat).marshal
      ⟨x, y, buttons⟩) ∧
    (∀ (dx dy : Int8) (buttons : UInt8), DeviceDecodes Message.mouseReport
      (MouseReportMessage.mk dx.toInt dy.toInt buttons.toNat).marshal
      ⟨dx, dy, buttons⟩) ∧
    (∀ (padIndex : Fin Gamepad.maxGamepads) (lx ly rx ry lt rt : UInt8)
      (buttons : UInt32), DeviceDecodes Message.gamepadReport
        (do (← GamepadReportMessage.new padIndex.val lx.toNat ly.toNat
          rx.toNat ry.toNat lt.toNat rt.toNat buttons.toNat).marshal)
        ⟨UInt8.ofNat padIndex, lx, ly, rx, ry, lt, rt, buttons⟩) ∧
    (∀ (isPaste : Bool) (steps : List HidRpc.KeyboardMacroStep),
      steps.length < 2 ^ 26 →
        (∀ step ∈ steps, step.keys.length ≤ hidKeyBufferSize) →
          DeviceDecodes Message.keyboardMacroReport
            (KeyboardMacroReportMessage.mk isPaste steps.length
              (steps.map KeyboardMacroStep.ofBytes)).marshal
            ⟨isPaste, UInt32.ofNat steps.length,
              steps.map HidRpc.KeyboardMacroStep.padded⟩) ∧
    (∀ state, BrowserDecodes (newKeydownStateMessage state)
      (.keysDownState state.modifier state.keys)) ∧
    (∀ b, BrowserDecodes (newKeyboardLedMessage (UsbGadget.getKeyboardState b))
      (.keyboardLedState
        (.ofKeyboardState (UsbGadget.getKeyboardState b)))) ∧
    (∀ state isPaste, BrowserDecodes
      (newKeyboardMacroStateMessage state isPaste)
      (.keyboardMacroState state isPaste)) :=
  ⟨keypressReport_round_trip, keyboardReport_round_trip,
    pointerReport_round_trip, mouseReport_round_trip,
    gamepadReport_round_trip, keyboardMacroReport_round_trip,
    keysDownState_round_trip, keyboardState_round_trip,
    keyboardMacroState_round_trip⟩

/-- One step of two keys. -/
theorem codecs_round_trip_paste :
    DeviceDecodes Message.keyboardMacroReport
      (KeyboardMacroReportMessage.mk true 1 [⟨2, [4, 5], 300⟩]).marshal
      ⟨true, 1, [⟨2, [4, 5, 0, 0, 0, 0], 300⟩]⟩ :=
  codecs_round_trip.2.2.2.2.2.1 true [⟨2, [4, 5], 300⟩] (by decide)
    (by decide)

end Browser

end HidRpc

end JetKvm
