import JetKvm.GamepadSlots
import JetKvm.HidRpcDispatch
import Mathlib.Algebra.Group.Int.Defs

/-!
# Pointer and gamepad reports of the browser

Translation of the two report messages of `ui/src/hooks/hidRpc.ts`, with the
numbers typed by the ranges their constructors and `marshal` accept.  The
device decodes what the browser marshals, and puts it on the queue of pointer
and gamepad reports.
-/

namespace JetKvm

namespace HidRpc

/-- `fromUint32toUint8`, big endian. -/
def fromUint32toUint8 (n : UInt32) : List UInt8 :=
  [(n >>> 24).toUInt8, (n >>> 16).toUInt8, (n >>> 8).toUInt8, n.toUInt8]

/-- `fromInt32toUint8`; the sign bit is the top bit of the first byte. -/
def fromInt32toUint8 (n : Int32) : List UInt8 :=
  fromUint32toUint8 n.toUInt32

/-- `PointerReportMessage` and `GamepadReportMessage` -/
inductive Report where
  | pointer (x y : Int32) (buttons : UInt8)
  | gamepad (padIndex : Fin Gamepad.maxGamepads) (lx ly rx ry lt rt : UInt8)
      (buttons : UInt32)
  deriving DecidableEq, Repr

/-- What has its own button state: the absolute mouse and each pad. -/
inductive Control where
  | absMouse
  | pad (index : Fin Gamepad.maxGamepads)
  deriving DecidableEq, Repr

def Report.control : Report → Control
  | .pointer _ _ _ => .absMouse
  | .gamepad padIndex _ _ _ _ _ _ _ => .pad padIndex

def Report.buttons : Report → UInt32
  | .pointer _ _ buttons => buttons.toUInt32
  | .gamepad _ _ _ _ _ _ _ buttons => buttons

def Report.marshal : Report → List UInt8
  | .pointer x y buttons =>
      typePointerReport ::
        (fromInt32toUint8 x ++ fromInt32toUint8 y ++ [buttons])
  | .gamepad padIndex lx ly rx ry lt rt buttons =>
      typeGamepadReport :: UInt8.ofNat padIndex :: lx :: ly :: rx :: ry ::
        lt :: rt :: fromUint32toUint8 buttons

/-- The call the device makes for a report. -/
def Report.call : Report → RpcCall
  | .pointer x y buttons => .absMouseReport x y buttons
  | .gamepad padIndex lx ly rx ry lt rt buttons =>
      .gamepadReport ⟨UInt8.ofNat padIndex, lx, ly, rx, ry, lt, rt, buttons⟩

/-! ## Bytes of 32-bit numbers -/

theorem toNat_add_bytes (b0 b1 b2 b3 : UInt8) :
    (b0.toUInt32 <<< 24 + b1.toUInt32 <<< 16 + b2.toUInt32 <<< 8 +
      b3.toUInt32 <<< 0).toNat =
      b3.toNat + b2.toNat * 2 ^ 8 + b1.toNat * 2 ^ 16 + b0.toNat * 2 ^ 24 := by
  have bound0 := b0.toNat_lt
  have bound1 := b1.toNat_lt
  have bound2 := b2.toNat_lt
  have bound3 := b3.toNat_lt
  simp [Nat.shiftLeft_eq]
  omega

theorem bigEndianUint32_fromUint32toUint8 (n : UInt32) (spare : List UInt8) :
    bigEndianUint32 ⟨fromUint32toUint8 n, spare⟩ = .ok n := by
  exact congrArg Except.ok (or_bytes n)

theorem toInt_fromUint32toUint8 (n : UInt32) (spare : List UInt8) :
    toInt ⟨fromUint32toUint8 n, spare⟩ = .ok n.toInt32 := by
  have same :=
    UInt32.toNat_inj.mp ((toNat_add_bytes _ _ _ _).trans (toNat_bytes n))
  exact congrArg (fun number => Except.ok number.toInt32) same

/-! ## Round trip -/

theorem pointerReport_marshal (x y : Int32) (buttons : UInt8)
    (spare : List UInt8) :
    Message.pointerReport ⟨typePointerReport,
        ⟨fromInt32toUint8 x ++ fromInt32toUint8 y ++ [buttons], spare⟩⟩ =
      .ok (.ok ⟨x, y, buttons⟩) := by
  let payload : Slice UInt8 :=
    ⟨fromInt32toUint8 x ++ fromInt32toUint8 y ++ [buttons], spare⟩
  have firstWindow : payload.between 0 4 = .ok
      ⟨fromUint32toUint8 x.toUInt32, fromInt32toUint8 y ++ buttons :: spare⟩ :=
    rfl
  have secondWindow : payload.between 4 8 = .ok
      ⟨fromUint32toUint8 y.toUInt32, buttons :: spare⟩ :=
    rfl
  have last : payload.index 8 = .ok buttons := rfl
  have complete : payload.length = 9 := rfl
  change Message.pointerReport ⟨typePointerReport, payload⟩ = _
  unfold Message.pointerReport
  simp only [ne_eq, not_true_eq_false, if_false, complete, firstWindow,
    secondWindow, last, bind, Except.bind, toInt_fromUint32toUint8]
  rfl

theorem gamepadReport_marshal (padIndex lx ly rx ry lt rt : UInt8)
    (buttons : UInt32) (spare : List UInt8) :
    Message.gamepadReport ⟨typeGamepadReport,
        ⟨padIndex :: lx :: ly :: rx :: ry :: lt :: rt ::
          fromUint32toUint8 buttons, spare⟩⟩ =
      .ok (.ok ⟨padIndex, lx, ly, rx, ry, lt, rt, buttons⟩) := by
  have decoded := bigEndianUint32_fromUint32toUint8 buttons spare
  change (do
    let buttons ← bigEndianUint32 ⟨fromUint32toUint8 buttons, spare⟩
    return Except.ok
      (⟨padIndex, lx, ly, rx, ry, lt, rt, buttons⟩ : GamepadReport)) = _
  rw [decoded]
  rfl

/-- The device makes the call of the report the browser marshalled. -/
theorem onHidMessage_marshal (debug : Bool) (report : Report)
    (spare : List UInt8) :
    onHidMessage debug ⟨report.marshal, spare⟩ = .ok (.call report.call) := by
  cases report with
  | pointer x y buttons =>
      rw [Report.marshal, onHidMessage_cons]
      change (do return Handled.ofDecoded _ (← Message.pointerReport _)) = _
      rw [pointerReport_marshal]
      rfl
  | gamepad padIndex lx ly rx ry lt rt buttons =>
      rw [Report.marshal, onHidMessage_cons]
      change (do return Handled.ofDecoded _ (← Message.gamepadReport _)) = _
      rw [gamepadReport_marshal]
      rfl

/-- Reports of both kinds share one queue, so they are handled in the order
they arrive in. -/
theorem onDataChannelMessage_marshal (report : Report) (spare : List UInt8) :
    onDataChannelMessage false ⟨report.marshal, spare⟩ = .ok (some 2) := by
  cases report <;> rfl

end HidRpc

end JetKvm
