import JetKvm.HidRpcDispatch
import JetKvm.LabelledRuns

/-!
# Data channels of a session and the guest role

A session opens data channels with labels of its choice and sends messages on
them.  `newSession` installs a handler by label; on the `rpc` channel
`onRPCMessage` refuses a method to a session that is not an admin session
unless the method is marked `GuestAllowed`.  A step is one channel opened or
one message received; what the device does in it is a list of operations.

How JSON is parsed and what a handler answers are parameters.
-/

namespace JetKvm

namespace DataChannels

open LabelledRuns

/-- `GuestAllowed` for each method in `rpcHandlers`. -/
def rpcHandlers : List (String × Bool) :=
  [
    ("ping", true),
    ("reboot", false),
    ("getDeviceID", true),
    ("deregisterDevice", false),
    ("getCloudState", false),
    ("getNetworkState", false),
    ("getNetworkSettings", false),
    ("setNetworkSettings", false),
    ("renewDHCPLease", false),
    ("getKeyboardLedState", true),
    ("getKeyDownState", true),
    ("keyboardReport", true),
    ("keypressReport", true),
    ("absMouseReport", true),
    ("relMouseReport", true),
    ("wheelReport", true),
    ("gamepadReport", true),
    ("getGamepadSlotsAvailable", true),
    ("getVideoState", true),
    ("getUSBState", true),
    ("unmountImage", false),
    ("rpcMountBuiltInImage", false),
    ("setJigglerState", false),
    ("getJigglerState", true),
    ("setJigglerConfig", false),
    ("getJigglerConfig", false),
    ("getTimezones", false),
    ("sendWOLMagicPacket", false),
    ("getStreamQualityFactor", false),
    ("setStreamQualityFactor", false),
    ("getVideoCodecPreference", false),
    ("setVideoCodecPreference", false),
    ("getAutoUpdateState", false),
    ("setAutoUpdateState", false),
    ("getEDID", true),
    ("setEDID", false),
    ("getVideoLogStatus", false),
    ("getVideoSleepMode", false),
    ("setVideoSleepMode", false),
    ("getDevChannelState", false),
    ("setDevChannelState", false),
    ("getLocalVersion", false),
    ("getUpdateStatus", false),
    ("checkUpdateComponents", false),
    ("getUpdateStatusChannel", false),
    ("tryUpdate", false),
    ("tryUpdateComponents", false),
    ("getDevModeState", false),
    ("setDevModeState", false),
    ("getSSHKeyState", false),
    ("setSSHKeyState", false),
    ("getTLSState", false),
    ("setTLSState", false),
    ("setMassStorageMode", false),
    ("getMassStorageMode", true),
    ("isUpdatePending", false),
    ("getUsbEmulationState", false),
    ("setUsbEmulationState", false),
    ("getUsbConfig", false),
    ("setUsbConfig", false),
    ("checkMountUrl", false),
    ("getVirtualMediaState", false),
    ("getStorageSpace", false),
    ("mountWithHTTP", false),
    ("mountWithStorage", false),
    ("listStorageFiles", false),
    ("deleteStorageFile", false),
    ("startStorageFileUpload", false),
    ("getWakeOnLanDevices", false),
    ("setWakeOnLanDevices", false),
    ("factoryReset", false),
    ("setDisplayRotation", false),
    ("getDisplayRotation", true),
    ("setBacklightSettings", false),
    ("getBacklightSettings", false),
    ("getDCPowerState", false),
    ("setDCPowerState", false),
    ("setDCRestoreState", false),
    ("getActiveExtension", false),
    ("setActiveExtension", false),
    ("getATXState", true),
    ("setATXPowerAction", false),
    ("getSerialSettings", false),
    ("setSerialSettings", false),
    ("sendCustomCommand", false),
    ("getSerialCommandHistory", false),
    ("setSerialCommandHistory", false),
    ("deleteSerialCommandHistory", false),
    ("setTerminalPaused", false),
    ("getUsbDevices", true),
    ("setUsbDevices", false),
    ("setUsbDeviceState", false),
    ("setCloudUrl", false),
    ("getKeyboardLayout", true),
    ("setKeyboardLayout", false),
    ("getKeyboardMacros", true),
    ("setKeyboardMacros", false),
    ("getLocalLoopbackOnly", false),
    ("setLocalLoopbackOnly", false),
    ("getDefaultLogLevel", false),
    ("setDefaultLogLevel", false),
    ("emitTestLog", false),
    ("getPublicIPAddresses", false),
    ("checkPublicIPAddresses", false),
    ("getTailscaleStatus", false),
    ("getTailscaleControlURL", false),
    ("setTailscaleControlURL", false),
    ("getMqttSettings", false),
    ("setMqttSettings", false),
    ("getMqttStatus", false),
    ("testMqttConnection", false),
    ("getAudioOutputEnabled", false),
    ("setAudioOutputEnabled", false),
    ("getAudioInputEnabled", false),
    ("setAudioInputEnabled", false),
    ("getAudioInputAutoEnable", false),
    ("setAudioInputAutoEnable", false),
    ("setSharingPassword", false),
    ("getSharingPasswordSet", false),
    ("setMultiPlayerGamepad", false),
    ("getMultiPlayerGamepad", true),
    ("getActiveSessionCount", true),
    ("kickAllClients", false),
    ("startTunnel", false),
    ("stopTunnel", false),
    ("getTunnelStatus", false)]

structure JSONRPCRequest where
  method : String
  params : String
  id : String
  deriving DecidableEq, Repr

structure JSONRPCError where
  code : Int
  message : String
  data : Option String := none
  deriving DecidableEq, Repr

structure JSONRPCResponse where
  result : Option String := none
  error : Option JSONRPCError := none
  id : String
  deriving DecidableEq, Repr

/-- What a message or an opened channel makes the device do. -/
inductive Operation where
  | announceState
  | hidInput (queue : Nat) (data : Slice UInt8)
  | callRPCHandler (method params : String)
  | startShell
  | shellInput (data : Slice UInt8)
  | attachSerial
  | serialInput (data : Slice UInt8)
  | openCDCACM
  | cdcacmInput (data : Slice UInt8)
  | receiveUpload (uploadId : String)
  | uploadInput (uploadId : String) (data : Slice UInt8)
  deriving DecidableEq, Repr

/-- The parts of JSON-RPC outside the dispatcher: `json.Unmarshal` of a request
and the outcome of `callRPCHandler`. -/
structure JsonRpc where
  unmarshal : List UInt8 → Except String JSONRPCRequest
  call : JSONRPCRequest → Except String String

/-- `onRPCMessage`: the handler it calls, if any, and its response. -/
def onRPCMessage (json : JsonRpc) (isAdmin : Bool) (data : List UInt8) :
    List Operation × JSONRPCResponse :=
  match json.unmarshal data with
  | .error _ =>
      ([], { error := some { code := -32700, message := "Parse error" }
             id := "0" })
  | .ok request =>
      match rpcHandlers.lookup request.method with
      | none =>
          ([], { error := some { code := -32601, message := "Method not found" }
                 id := request.id })
      | some guestAllowed =>
          if !isAdmin && !guestAllowed then
            ([], { error := some
                     { code := -32001
                       message := "Permission denied"
                       data := some
                         "this method is restricted to admin sessions" }
                   id := request.id })
          else
            ([.callRPCHandler request.method request.params],
              match json.call request with
              | .error error =>
                  { error := some
                      { code := -32603
                        message := "Internal error"
                        data := some error }
                    id := request.id }
              | .ok result => { result := some result, id := request.id })

def uploadIdPrefix : String := "upload_"

/-- The handler installed for a channel.  The flags say whether the shell, the
serial console or the device behind it could be opened. -/
inductive Channel where
  | hidrpc
  | rpc
  | terminal (started : Bool)
  | serial (attached : Bool)
  | cdcacm (opened : Bool)
  | upload (uploadId : String)
  | ignored
  deriving DecidableEq, Repr

/-- A session and the uploads that wait for their channel. -/
structure State where
  isAdmin : Bool
  channels : List Channel := []
  pendingUploads : List String := []
  deriving DecidableEq, Repr

/-- `newSession`: the session of an admin login or of the cloud. -/
def newSession (isAdmin isCloud : Bool) (pendingUploads : List String) :
    State :=
  { isAdmin := isAdmin || isCloud, pendingUploads := pendingUploads }

inductive Label where
  | openChannel (label : String) (opens : Bool)
  | message (channel : Nat) (isString : Bool) (data : Slice UInt8)
  | uploadStarted (uploadId : String)
  | uploadEnded (uploadId : String)
  deriving DecidableEq, Repr

/-- The switch of `OnDataChannel`. -/
def onDataChannel (pendingUploads : List String) (label : String)
    (opens : Bool) : Channel :=
  if label = "hidrpc" then .hidrpc
  else if label = "hidrpc-unreliable-ordered" then .hidrpc
  else if label = "hidrpc-unreliable-nonordered" then .hidrpc
  else if label = "rpc" then .rpc
  else if label = "terminal" then .terminal opens
  else if label = "serial" then .serial opens
  else if label = "cdcacm" then .cdcacm opens
  else if uploadIdPrefix.isPrefixOf label then
    -- an upload channel for an unknown upload is closed at once
    if label ∈ pendingUploads then .upload label else .ignored
  else .ignored

/-- What opening a channel does. -/
def Channel.onOpen : Channel → List Operation
  | .hidrpc => []
  -- the OTA, video and USB states are sent to the session
  | .rpc => [.announceState]
  | .terminal _ => [.startShell]
  | .serial _ => [.attachSerial]
  | .cdcacm _ => [.openCDCACM]
  | .upload uploadId => [.receiveUpload uploadId]
  | .ignored => []

/-- What a message on a channel does. -/
def Channel.onMessage (json : JsonRpc) (isAdmin isString : Bool)
    (data : Slice UInt8) : Channel → List Operation
  | .hidrpc =>
      match HidRpc.onDataChannelMessage isString data with
      | .ok (some queue) => [.hidInput queue data]
      | _ => []
  | .rpc => (onRPCMessage json isAdmin data.elements).1
  | .terminal started => if started then [.shellInput data] else []
  | .serial attached => if attached then [.serialInput data] else []
  | .cdcacm opened => if opened then [.cdcacmInput data] else []
  | .upload uploadId => [.uploadInput uploadId data]
  | .ignored => []

/-- The operations a step makes the device perform for the session. -/
def performed (json : JsonRpc) (state : State) : Label → List Operation
  | .openChannel label opens =>
      (onDataChannel state.pendingUploads label opens).onOpen
  | .message channel isString data =>
      match state.channels[channel]? with
      | none => []
      | some channel =>
          channel.onMessage json state.isAdmin isString data
  | .uploadStarted _ => []
  | .uploadEnded _ => []

def step (state : State) : Label → Option State
  | .openChannel label opens =>
      some { state with
        channels :=
          state.channels ++ [onDataChannel state.pendingUploads label opens] }
  | .message channel _ _ =>
      if channel < state.channels.length then some state else none
  | .uploadStarted uploadId =>
      some { state with pendingUploads := uploadId :: state.pendingUploads }
  | .uploadEnded uploadId =>
      some { state with pendingUploads := state.pendingUploads.erase uploadId }

/-- The operations the guest role grants: HID input, the handlers marked
`GuestAllowed`, and the state events every session receives. -/
def Operation.GuestGranted : Operation → Prop
  | .announceState => True
  | .hidInput _ _ => True
  | .callRPCHandler method _ => rpcHandlers.lookup method = some true
  | _ => False

/-- The device performs only operations the guest role grants. -/
def OnlyGranted (json : JsonRpc) (state : State) (label : Label) : Prop :=
  ∀ operation ∈ performed json state label, operation.GuestGranted

/-- The step does not open a channel for the terminal, the serial console, the
CDC-ACM console or a pending upload. -/
def OpensNoAdminChannel (state : State) : Label → Prop
  | .openChannel label _ =>
      label ≠ "terminal" ∧ label ≠ "serial" ∧ label ≠ "cdcacm" ∧
        ¬ (uploadIdPrefix.isPrefixOf label = true ∧
          label ∈ state.pendingUploads)
  | _ => True

/-- Channels whose handlers a guest may use. -/
def Channel.ForGuest : Channel → Prop
  | .hidrpc => True
  | .rpc => True
  | .ignored => True
  | _ => False

theorem onOpen_granted_iff (channel : Channel) :
    (∀ operation ∈ channel.onOpen, operation.GuestGranted) ↔
      channel.ForGuest := by
  cases channel <;>
    simp [Channel.onOpen, Channel.ForGuest, Operation.GuestGranted]

/-- None of the labels with a handler of their own is an upload label. -/
theorem fixedLabel {label : String}
    (fixed : label ∈ ["hidrpc", "hidrpc-unreliable-ordered",
      "hidrpc-unreliable-nonordered", "rpc"]) (pendingUploads : List String) :
    label ≠ "terminal" ∧ label ≠ "serial" ∧ label ≠ "cdcacm" ∧
      ¬ (uploadIdPrefix.isPrefixOf label = true ∧
        label ∈ pendingUploads) := by
  have distinct : ∀ name ∈ ["hidrpc", "hidrpc-unreliable-ordered",
      "hidrpc-unreliable-nonordered", "rpc"],
      name ≠ "terminal" ∧ name ≠ "serial" ∧ name ≠ "cdcacm" ∧
        uploadIdPrefix.isPrefixOf name = false := by
    decide +kernel
  obtain ⟨notTerminal, notSerial, notCdcacm, notUpload⟩ := distinct label fixed
  refine ⟨notTerminal, notSerial, notCdcacm, ?_⟩
  rw [notUpload]
  exact fun upload => Bool.false_ne_true upload.1

theorem forGuest_onDataChannel_iff (pendingUploads : List String)
    (label : String) (opens : Bool) :
    (onDataChannel pendingUploads label opens).ForGuest ↔
      label ≠ "terminal" ∧ label ≠ "serial" ∧ label ≠ "cdcacm" ∧
        ¬ (uploadIdPrefix.isPrefixOf label = true ∧
          label ∈ pendingUploads) := by
  unfold onDataChannel
  by_cases reliable : label = "hidrpc"
  · rw [if_pos reliable]
    exact iff_of_true trivial (fixedLabel (by simp [reliable]) pendingUploads)
  rw [if_neg reliable]
  by_cases ordered : label = "hidrpc-unreliable-ordered"
  · rw [if_pos ordered]
    exact iff_of_true trivial (fixedLabel (by simp [ordered]) pendingUploads)
  rw [if_neg ordered]
  by_cases nonordered : label = "hidrpc-unreliable-nonordered"
  · rw [if_pos nonordered]
    exact iff_of_true trivial (fixedLabel (by simp [nonordered]) pendingUploads)
  rw [if_neg nonordered]
  by_cases rpc : label = "rpc"
  · rw [if_pos rpc]
    exact iff_of_true trivial (fixedLabel (by simp [rpc]) pendingUploads)
  rw [if_neg rpc]
  by_cases terminal : label = "terminal"
  · rw [if_pos terminal]
    simp [terminal, Channel.ForGuest]
  rw [if_neg terminal]
  by_cases serial : label = "serial"
  · rw [if_pos serial]
    simp [serial, Channel.ForGuest]
  rw [if_neg serial]
  by_cases cdcacm : label = "cdcacm"
  · rw [if_pos cdcacm]
    simp [cdcacm, Channel.ForGuest]
  rw [if_neg cdcacm]
  by_cases upload : uploadIdPrefix.isPrefixOf label = true
  · rw [if_pos upload]
    by_cases pending : label ∈ pendingUploads
    · rw [if_pos pending]
      simp [upload, pending, Channel.ForGuest]
    · rw [if_neg pending]
      simp [terminal, serial, cdcacm, pending, Channel.ForGuest]
  · rw [if_neg upload]
    simp [terminal, serial, cdcacm, upload, Channel.ForGuest]

/-- The dispatcher calls a handler for a guest only if it is marked. -/
theorem onRPCMessage_granted (json : JsonRpc) (data : List UInt8) :
    ∀ operation ∈ (onRPCMessage json false data).1,
      operation.GuestGranted := by
  unfold onRPCMessage
  cases json.unmarshal data with
  | error error => exact nofun
  | ok request =>
      dsimp only
      cases found : rpcHandlers.lookup request.method with
      | none => exact nofun
      | some guestAllowed =>
          cases guestAllowed with
          | false => exact nofun
          | true =>
              intro operation member
              rw [List.mem_singleton.mp member]
              exact found

theorem onMessage_granted {channel : Channel} (forGuest : channel.ForGuest)
    (json : JsonRpc) (isString : Bool) (data : Slice UInt8) :
    ∀ operation ∈ channel.onMessage json false isString data,
      operation.GuestGranted := by
  cases channel with
  | hidrpc =>
      intro operation member
      simp only [Channel.onMessage] at member
      split at member
      · rw [List.mem_singleton.mp member]
        trivial
      · cases member
  | rpc => exact onRPCMessage_granted json data.elements
  | ignored => exact nofun
  | _ => exact forGuest.elim

/-- A guest session with only guest channels open. -/
structure GuestSession (state : State) : Prop where
  notAdmin : state.isAdmin = false
  forGuest : ∀ channel ∈ state.channels, channel.ForGuest

theorem GuestSession.initial (pendingUploads : List String) :
    GuestSession (newSession false false pendingUploads) :=
  ⟨rfl, nofun⟩

theorem GuestSession.onlyGranted_iff {json : JsonRpc} {state : State}
    (guest : GuestSession state) (label : Label) :
    OnlyGranted json state label ↔ OpensNoAdminChannel state label := by
  cases label with
  | openChannel label opens =>
      exact (onOpen_granted_iff _).trans
        (forGuest_onDataChannel_iff state.pendingUploads label opens)
  | message index isString data =>
      refine iff_of_true ?_ trivial
      unfold OnlyGranted performed
      dsimp only
      cases found : state.channels[index]? with
      | none => exact nofun
      | some channel =>
          rw [guest.notAdmin]
          exact onMessage_granted
            (guest.forGuest channel (List.mem_of_getElem? found))
            json isString data
  | uploadStarted uploadId => exact iff_of_true nofun trivial
  | uploadEnded uploadId => exact iff_of_true nofun trivial

theorem GuestSession.step {state next : State} {label : Label}
    (guest : GuestSession state) (opensNone : OpensNoAdminChannel state label)
    (taken : DataChannels.step state label = some next) :
    GuestSession next := by
  cases label with
  | openChannel label opens =>
      obtain rfl := Option.some.inj taken
      refine ⟨guest.notAdmin, fun channel member => ?_⟩
      rcases List.mem_append.mp member with old | new
      · exact guest.forGuest channel old
      · rw [List.mem_singleton.mp new]
        exact (forGuest_onDataChannel_iff _ label opens).mpr opensNone
  | message index isString data =>
      simp only [DataChannels.step] at taken
      split_ifs at taken
      obtain rfl := Option.some.inj taken
      exact guest
  | uploadStarted _ | uploadEnded _ =>
      obtain rfl := Option.some.inj taken
      exact ⟨guest.notAdmin, guest.forGuest⟩

/-- A guest session gets only what its role grants exactly when it opens no
channel for the terminal, the serial console, the CDC-ACM console or a pending
upload. -/
theorem guest_onlyGranted_iff (json : JsonRpc) (pendingUploads : List String)
    (labels : List Label) :
    AllSteps step (OnlyGranted json) (newSession false false pendingUploads)
        labels ↔
      AllSteps step OpensNoAdminChannel
        (newSession false false pendingUploads) labels :=
  (allSteps_congr (fun guest opensNone => guest.step opensNone)
    (fun guest _ => (guest.onlyGranted_iff _).symm)
    (GuestSession.initial pendingUploads) labels).symm

/-- A guest opens the terminal channel, which starts a root shell, and types
into it. -/
theorem guest_opens_terminal :
    ¬ AllSteps step
      (OnlyGranted ⟨fun _ => .error "no request", fun _ => .ok "null"⟩)
      (newSession false false [])
      [.openChannel "terminal" true,
        .message 0 true ⟨[0x69, 0x64, 0x0A], []⟩] := by
  intro granted
  exact (granted _ rfl).1 .startShell List.mem_cons_self

end DataChannels

end JetKvm
