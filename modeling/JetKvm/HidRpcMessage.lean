import JetKvm.GoSlices

/-!
# The HID-RPC wire format on the device

Translation of `internal/hidrpc`: a message is a type byte followed by its
payload, and each typed accessor decodes the payload it expects.  Some
accessors check the payload length before indexing into it and some do not, so
every accessor is an `Outcome`: it may panic, and when it does not it returns
either a value or an error.

The firmware is built for 32-bit ARM, so `int` is `Int32`.
-/

namespace JetKvm

namespace HidRpc

/-- `MessageType`; every byte can arrive. -/
abbrev MessageType := UInt8

def typeHandshake : MessageType := 0x01
def typeKeyboardReport : MessageType := 0x02
def typePointerReport : MessageType := 0x03
def typeWheelReport : MessageType := 0x04
def typeKeypressReport : MessageType := 0x05
def typeKeypressKeepAliveReport : MessageType := 0x09
def typeMouseReport : MessageType := 0x06
def typeKeyboardMacroReport : MessageType := 0x07
def typeCancelKeyboardMacroReport : MessageType := 0x08
def typeGamepadReport : MessageType := 0x0A
def typeKeyboardLedState : MessageType := 0x32
def typeKeydownState : MessageType := 0x33
def typeKeyboardMacroState : MessageType := 0x34

/-- The queue a message type is enqueued on. -/
def getQueueIndex (messageType : MessageType) : Nat :=
  if messageType = typeHandshake then 0
  else if messageType = typeKeyboardReport ∨ messageType = typeKeypressReport ∨
      messageType = typeKeyboardMacroReport ∨
      messageType = typeKeyboardLedState ∨ messageType = typeKeydownState ∨
      messageType = typeKeyboardMacroState then 1
  else if messageType = typePointerReport ∨ messageType = typeMouseReport ∨
      messageType = typeWheelReport ∨ messageType = typeGamepadReport then 2
  else 3

theorem getQueueIndex_lt_four (messageType : MessageType) :
    getQueueIndex messageType < 4 := by
  unfold getQueueIndex
  split_ifs <;> omega

structure Message where
  t : MessageType
  d : Slice UInt8
  deriving DecidableEq, Repr

/-- `Unmarshal`: the first byte is the type, the rest the payload, which keeps
the spare capacity of the received buffer. -/
def unmarshal (data : Slice UInt8) : Outcome (Except String Message) := do
  if data.length < 1 then
    return .error s!"invalid data length: {data.length}"
  let t ← data.index 0
  let d ← data.dropTo 1
  return .ok ⟨t, d⟩

def invalidMessageType (t : MessageType) : String :=
  s!"invalid message type: {t}"

structure KeypressReport where
  key : UInt8
  press : Bool
  deriving DecidableEq, Repr

def Message.keypressReport (m : Message) :
    Outcome (Except String KeypressReport) := do
  if m.t ≠ typeKeypressReport then
    return .error (invalidMessageType m.t)
  let key ← m.d.index 0
  let press ← m.d.index 1
  return .ok ⟨key, press == 1⟩

structure KeyboardReport where
  modifier : UInt8
  keys : List UInt8
  deriving DecidableEq, Repr

def Message.keyboardReport (m : Message) :
    Outcome (Except String KeyboardReport) := do
  if m.t ≠ typeKeyboardReport then
    return .error (invalidMessageType m.t)
  let modifier ← m.d.index 0
  let keys ← m.d.dropTo 1
  return .ok ⟨modifier, keys.elements⟩

structure KeyboardMacroStep where
  modifier : UInt8
  keys : List UInt8
  delay : UInt16
  deriving DecidableEq, Repr

structure KeyboardMacroReport where
  isPaste : Bool
  stepCount : UInt32
  steps : List KeyboardMacroStep
  deriving DecidableEq, Repr

/-- `HidKeyBufferSize`, the size of the keys buffer in the keyboard report. -/
def hidKeyBufferSize : Nat := 6

/-- The size of a `KeyboardMacroStep` on 32-bit ARM: a byte, a three-word
slice header and a `uint16`, each aligned to its own size. -/
def keyboardMacroStepSize : Nat := 20

/-- One pass of the step loop of `KeyboardMacroReport`. -/
def keyboardMacroStepAt (d : Slice UInt8) (offset : Nat) :
    Outcome KeyboardMacroStep := do
  let modifier ← d.index offset
  let keys ← d.between (offset + 1) (offset + 7)
  let delay ← bigEndianUint16 (← d.between (offset + 7) (offset + 9))
  return ⟨modifier, keys.elements, delay⟩

/-- The step loop, `count` passes from `offset` on. -/
def keyboardMacroSteps (d : Slice UInt8) :
    Nat → Nat → Outcome (List KeyboardMacroStep)
  | 0, _ => pure []
  | count + 1, offset => do
      let step ← keyboardMacroStepAt d offset
      let rest ← keyboardMacroSteps d count (offset + (1 + hidKeyBufferSize + 2))
      return step :: rest

/-- `KeyboardMacroReport` from the length check on, for the header read. -/
def keyboardMacroReportBody (d : Slice UInt8) (isPaste : UInt8)
    (stepCount : UInt32) : Outcome (Except String KeyboardMacroReport) := do
  -- both operands are 32-bit ints, so the product wraps
  let expectedLength : Int32 := stepCount.toInt32 * 9 + 5
  if (d.length : Int) ≠ expectedLength.toInt then
    return .error
      s!"invalid length: {d.length}, expected: {expectedLength.toInt}"
  makeSlice keyboardMacroStepSize stepCount.toInt32
  let steps ← keyboardMacroSteps d stepCount.toInt32.toNatClampNeg 5
  return .ok ⟨isPaste == 1, stepCount, steps⟩

def Message.keyboardMacroReport (m : Message) :
    Outcome (Except String KeyboardMacroReport) := do
  if m.t ≠ typeKeyboardMacroReport then
    return .error (invalidMessageType m.t)
  let isPaste ← m.d.index 0
  let stepCount ← bigEndianUint32 (← m.d.between 1 5)
  keyboardMacroReportBody m.d isPaste stepCount

structure PointerReport where
  x : Int32
  y : Int32
  button : UInt8
  deriving DecidableEq, Repr

def toInt (b : Slice UInt8) : Outcome Int32 := do
  let b0 ← b.index 0
  let b1 ← b.index 1
  let b2 ← b.index 2
  let b3 ← b.index 3
  return (b0.toUInt32 <<< 24 + b1.toUInt32 <<< 16 + b2.toUInt32 <<< 8 +
    b3.toUInt32 <<< 0).toInt32

def Message.pointerReport (m : Message) :
    Outcome (Except String PointerReport) := do
  if m.t ≠ typePointerReport then
    return .error (invalidMessageType m.t)
  if m.d.length ≠ 9 then
    return .error s!"invalid message length: {m.d.length}"
  let x ← toInt (← m.d.between 0 4)
  let y ← toInt (← m.d.between 4 8)
  let button ← m.d.index 8
  return .ok ⟨x, y, button⟩

structure MouseReport where
  dx : Int8
  dy : Int8
  button : UInt8
  deriving DecidableEq, Repr

def Message.mouseReport (m : Message) :
    Outcome (Except String MouseReport) := do
  if m.t ≠ typeMouseReport then
    return .error (invalidMessageType m.t)
  let dx ← m.d.index 0
  let dy ← m.d.index 1
  let button ← m.d.index 2
  return .ok ⟨dx.toInt8, dy.toInt8, button⟩

structure GamepadReport where
  padIndex : UInt8
  lx : UInt8
  ly : UInt8
  rx : UInt8
  ry : UInt8
  lt : UInt8
  rt : UInt8
  buttons : UInt32
  deriving DecidableEq, Repr

def Message.gamepadReport (m : Message) :
    Outcome (Except String GamepadReport) := do
  if m.t ≠ typeGamepadReport then
    return .error (invalidMessageType m.t)
  if m.d.length ≠ 11 then
    return .error s!"invalid gamepad report length: {m.d.length}"
  let padIndex ← m.d.index 0
  let lx ← m.d.index 1
  let ly ← m.d.index 2
  let rx ← m.d.index 3
  let ry ← m.d.index 4
  let lt ← m.d.index 5
  let rt ← m.d.index 6
  let buttons ← bigEndianUint32 (← m.d.between 7 11)
  return .ok ⟨padIndex, lx, ly, rx, ry, lt, rt, buttons⟩

/-- `%v` of a byte slice. -/
def formatBytes (bytes : Slice UInt8) : String :=
  "[" ++ " ".intercalate (bytes.elements.map toString) ++ "]"

/-- `Message.String`, evaluated only when debug logging is on. -/
def Message.string (m : Message) : Outcome String := do
  if m.t = typeHandshake then
    return "Handshake"
  else if m.t = typeKeypressReport then
    if m.d.length < 2 then
      return "KeypressReport\x7bMalformed: " ++ formatBytes m.d ++ "\x7d"
    let key ← m.d.index 0
    let press ← m.d.index 1
    return s!"KeypressReport\x7bKey: {key}, Press: {press == 1}\x7d"
  else if m.t = typeKeyboardReport then
    if m.d.length < 2 then
      return "KeyboardReport\x7bMalformed: " ++ formatBytes m.d ++ "\x7d"
    let modifier ← m.d.index 0
    let keys ← m.d.dropTo 1
    return s!"KeyboardReport\x7bModifier: {modifier}, Keys: {formatBytes keys}\x7d"
  else if m.t = typePointerReport then
    if m.d.length < 9 then
      return "PointerReport\x7bMalformed: " ++ formatBytes m.d ++ "\x7d"
    let x ← m.d.between 0 4
    let y ← m.d.between 4 8
    let button ← m.d.index 8
    return s!"PointerReport\x7bX: {formatBytes x}, Y: {formatBytes y}, Button: {button}\x7d"
  else if m.t = typeMouseReport then
    if m.d.length < 3 then
      return "MouseReport\x7bMalformed: " ++ formatBytes m.d ++ "\x7d"
    let dx ← m.d.index 0
    let dy ← m.d.index 1
    let button ← m.d.index 2
    return s!"MouseReport\x7bDX: {dx}, DY: {dy}, Button: {button}\x7d"
  else if m.t = typeGamepadReport then
    if m.d.length < 11 then
      return "GamepadReport\x7bMalformed: " ++ formatBytes m.d ++ "\x7d"
    let padIndex ← m.d.index 0
    let lx ← m.d.index 1
    let ly ← m.d.index 2
    let rx ← m.d.index 3
    let ry ← m.d.index 4
    let lt ← m.d.index 5
    let rt ← m.d.index 6
    let buttons ← bigEndianUint32 (← m.d.between 7 11)
    return s!"GamepadReport\x7bPad: {padIndex}, LX: {lx}, LY: {ly}, RX: {rx}, RY: {ry}, LT: {lt}, RT: {rt}, Buttons: {buttons}\x7d"
  else if m.t = typeKeypressKeepAliveReport then
    return "KeypressKeepAliveReport"
  else if m.t = typeKeyboardMacroReport then
    if m.d.length < 5 then
      return "KeyboardMacroReport\x7bMalformed: " ++ formatBytes m.d ++ "\x7d"
    let isPaste ← m.d.index 0
    let stepCount ← bigEndianUint32 (← m.d.between 1 5)
    return s!"KeyboardMacroReport\x7bIsPaste: {isPaste == 1}, Length: {stepCount}\x7d"
  else
    return s!"Unknown\x7bType: {m.t}, Data: {formatBytes m.d}\x7d"

end HidRpc

end JetKvm
