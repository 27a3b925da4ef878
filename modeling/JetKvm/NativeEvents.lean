import JetKvm.GoSlices

/-!
# Native events

The events of the native process: the C side reports one to Go, `NewGRPCServer`
wraps it in a protocol message, and `handleEvent` of the gRPC client unwraps
it for the process that serves the viewers.
-/

namespace JetKvm

namespace NativeEvents

/-- `jetkvm_video_state_t`; a null error is `none`, and a double is its bits. -/
structure JetkvmVideoState where
  ready : Bool
  streaming : UInt8
  error : Option String
  width : UInt16
  height : UInt16
  framePerSecond : UInt64
  deriving DecidableEq, Repr

structure VideoState where
  ready : Bool
  streaming : UInt8 := 0
  error : String
  width : Int
  height : Int
  framePerSecond : UInt64
  deriving DecidableEq, Repr

/-- `VideoState` of `native.proto` -/
structure PbVideoState where
  ready : Bool
  error : String
  width : Int32
  height : Int32
  framePerSecond : UInt64
  deriving DecidableEq, Repr

/-- The `data` of an `Event` in `native.proto` -/
inductive EventData where
  | videoState (state : PbVideoState)
  | indevEvent (event : String)
  | rpcEvent (event : String)
  deriving DecidableEq, Repr

structure Event where
  type : String
  data : Option EventData
  deriving DecidableEq, Repr

def Event.getVideoState (event : Event) : Option PbVideoState :=
  match event.data with
  | some (.videoState state) => some state
  | _ => none

def Event.getIndevEvent (event : Event) : String :=
  match event.data with
  | some (.indevEvent name) => name
  | _ => ""

def Event.getRpcEvent (event : Event) : String :=
  match event.data with
  | some (.rpcEvent name) => name
  | _ => ""

/-- A call of one of the callbacks `onVideoStateChange`, `onIndevEvent` and
`onRpcEvent` -/
inductive Notification where
  | videoStateChange (state : VideoState)
  | indevEvent (event : String)
  | rpcEvent (event : String)
  deriving DecidableEq, Repr

/-- What the C side hands over. -/
inductive Report where
  | videoState (state : JetkvmVideoState)
  | indev (name : String)
  | rpc (method : String)
  deriving DecidableEq, Repr

/-- `jetkvm_go_video_state_handler` -/
def goVideoState (state : JetkvmVideoState) : VideoState where
  ready := state.ready
  streaming := state.streaming
  error := state.error.getD ""
  width := state.width.toNat
  height := state.height.toNat
  framePerSecond := state.framePerSecond

def Report.notification : Report → Notification
  | .videoState state => .videoStateChange (goVideoState state)
  | .indev name => .indevEvent name
  | .rpc method => .rpcEvent method

/-- The message that the callbacks set by `NewGRPCServer` broadcast. -/
def toEvent : Notification → Event
  | .videoStateChange state =>
      { type := "video_state_change"
        data := some (.videoState
          { ready := state.ready
            error := state.error
            width := Int32.ofInt state.width
            height := Int32.ofInt state.height
            framePerSecond := state.framePerSecond }) }
  | .indevEvent event =>
      { type := "indev_event", data := some (.indevEvent event) }
  | .rpcEvent event =>
      { type := "rpc_event", data := some (.rpcEvent event) }

/-- The callback that `handleEvent` calls, if it calls one. -/
def handleEvent (event : Event) : Option Notification :=
  if event.type = "video_state_change" then
    match event.getVideoState with
    | none => none
    | some state =>
        some (.videoStateChange
          { ready := state.ready
            error := state.error
            width := state.width.toInt
            height := state.height.toInt
            framePerSecond := state.framePerSecond })
  else if event.type = "indev_event" then
    some (.indevEvent event.getIndevEvent)
  else if event.type = "rpc_event" then
    some (.rpcEvent event.getRpcEvent)
  else none

/-- The streaming status that a report carries. -/
def Report.streaming : Report → UInt8
  | .videoState state => state.streaming
  | _ => 0

/-- The notification with the streaming status of a fresh `VideoState` -/
def Notification.withoutStreaming : Notification → Notification
  | .videoStateChange state => .videoStateChange { state with streaming := 0 }
  | notification => notification

@[simp] theorem bmod_size_of_uint16 (n : UInt16) :
    (n.toNat : Int).bmod Int32.size = n.toNat := by
  have small := n.toNat_lt
  have size : Int32.size = 4294967296 := rfl
  exact Int.bmod_eq_of_le (by omega) (by omega)

theorem handleEvent_toEvent (report : Report) :
    handleEvent (toEvent report.notification) =
      some report.notification.withoutStreaming := by
  cases report with
  | videoState state =>
      simp [Report.notification, toEvent, handleEvent, Event.getVideoState,
        Notification.withoutStreaming, goVideoState]
  | indev name => rfl
  | rpc method => rfl

theorem withoutStreaming_eq_iff (report : Report) :
    report.notification.withoutStreaming = report.notification ↔
      report.streaming = 0 := by
  cases report with
  | videoState state =>
      simp [Report.notification, Notification.withoutStreaming, goVideoState,
        Report.streaming, eq_comm]
  | indev name => simp [Report.notification, Notification.withoutStreaming,
      Report.streaming]
  | rpc method => simp [Report.notification, Notification.withoutStreaming,
      Report.streaming]

end NativeEvents

end JetKvm
