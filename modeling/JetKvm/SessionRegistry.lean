import JetKvm.HidRpcMessage
import JetKvm.LabelledRuns
import Mathlib.Data.List.Infix
import Mathlib.Tactic.Common

/-!
# The registry of sessions and the current session

Translation of `webrtc_registry.go`, of `ExchangeOffer`, and of the two
handlers that create sessions.  Sessions are named by their IDs.  A call of a
handler is one step, and so is the handler of a closed ICE connection, which
removes the session and cleans up after the last one.
-/

namespace JetKvm

/-- `sessionRegistry`.  Its map is the list of its keys, the session added
last in front. -/
structure SessionRegistry where
  byID : List String := []
  primary : Option String := none
  deriving DecidableEq, Repr

namespace SessionRegistry

def add (registry : SessionRegistry) (id : String) : SessionRegistry :=
  if id = "" then registry
  else
    { byID := id :: registry.byID.filter (· ≠ id)
      primary := some id }

/-- `Remove`.  Ranging over the map visits any remaining session first;
`visited` says which. -/
def remove (registry : SessionRegistry) (id : String) (visited : Nat) :
    SessionRegistry :=
  let byID := registry.byID.filter (· ≠ id)
  { byID := byID
    primary :=
      if registry.primary = some id then byID[visited % byID.length]?
      else registry.primary }

def count (registry : SessionRegistry) : Nat :=
  registry.byID.length

/-- The session added last among those still registered. -/
def mostRecentlyAdded (registry : SessionRegistry) : Option String :=
  registry.byID.head?

theorem add_of_ne {registry : SessionRegistry} {id : String} (named : id ≠ "") :
    registry.add id =
      { byID := id :: registry.byID.filter (· ≠ id), primary := some id } :=
  if_neg named

/-- The primary session is a registered one, also after a removal. -/
theorem mem_of_primary_remove {registry : SessionRegistry} {id : String}
    {visited : Nat}
    (listed : ∀ {primary}, registry.primary = some primary →
      primary ∈ registry.byID)
    {primary : String}
    (isPrimary : (registry.remove id visited).primary = some primary) :
    primary ∈ (registry.remove id visited).byID := by
  simp only [remove] at isPrimary ⊢
  split at isPrimary
  · exact List.mem_of_getElem? isPrimary
  · rename_i notRemoved
    have distinct : primary ≠ id := fun same =>
      notRemoved (same ▸ isPrimary)
    simp [listed isPrimary, distinct]

@[simp]
theorem mem_byID_remove {registry : SessionRegistry} {id other : String}
    {visited : Nat} :
    other ∈ (registry.remove id visited).byID ↔
      other ∈ registry.byID ∧ other ≠ id := by
  simp [remove]

end SessionRegistry

namespace Signaling

open LabelledRuns

/-- The part of a session description that the code reads. -/
structure SessionDescription where
  sdp : String
  deriving DecidableEq, Repr

/-- What the decoders and the peer connection answer to the steps of one
offer. -/
structure Negotiation where
  decodeString : String → Except String (List UInt8)
  unmarshal : List UInt8 → Except String SessionDescription
  videoCodecPreference : String := "auto"
  newTrackLocalStaticSample : String → Except String Unit
  addTrack : Except String Unit
  setRemoteDescription : SessionDescription → Except String Unit
  createAnswer : Except String SessionDescription
  setLocalDescription : SessionDescription → Except String Unit
  marshalLocalDescription : Except String (List UInt8)
  encodeToString : List UInt8 → String

def mimeTypeH264 : String := "video/H264"

def mimeTypeH265 : String := "video/H265"

def resolveCodec (videoCodecPreference offerSDP : String) : String :=
  let browserSupportsH265 :=
    decide ("H265".toList <:+: offerSDP.toUpper.toList)
  if videoCodecPreference = "h265" then
    if browserSupportsH265 then mimeTypeH265 else mimeTypeH264
  else if videoCodecPreference = "h264" then mimeTypeH264
  else if browserSupportsH265 then mimeTypeH265 else mimeTypeH264

namespace Negotiation

/-- `ExchangeOffer` up to the registration of the session. -/
def addVideoTrack (negotiation : Negotiation) (offerStr : String) :
    Except String SessionDescription := do
  let b ← negotiation.decodeString offerStr
  let offer ← negotiation.unmarshal b
  let codec := resolveCodec negotiation.videoCodecPreference offer.sdp
  negotiation.newTrackLocalStaticSample codec
  negotiation.addTrack
  return offer

/-- `ExchangeOffer` after the registration of the session. -/
def answerOffer (negotiation : Negotiation) (offer : SessionDescription) :
    Except String String := do
  negotiation.setRemoteDescription offer
  let answer ← negotiation.createAnswer
  negotiation.setLocalDescription answer
  let localDescription ← negotiation.marshalLocalDescription
  return negotiation.encodeToString localDescription

def exchangeOffer (negotiation : Negotiation) (registry : SessionRegistry)
    (id offerStr : String) : SessionRegistry × Except String String :=
  match negotiation.addVideoTrack offerStr with
  | .error err => (registry, .error err)
  | .ok offer => (registry.add id, negotiation.answerOffer offer)

/-- The offer decodes and parses, and its video track is added. -/
def TrackAdded (negotiation : Negotiation) (offerStr : String)
    (offer : SessionDescription) : Prop :=
  (∃ b, negotiation.decodeString offerStr = .ok b ∧
    negotiation.unmarshal b = .ok offer) ∧
  negotiation.newTrackLocalStaticSample
    (resolveCodec negotiation.videoCodecPreference offer.sdp) = .ok () ∧
  negotiation.addTrack = .ok ()

/-- The peer connection accepts the offer and the answer to it, which can be
marshalled. -/
def Answerable (negotiation : Negotiation) (offer : SessionDescription) : Prop :=
  negotiation.setRemoteDescription offer = .ok () ∧
  (∃ answer, negotiation.createAnswer = .ok answer ∧
    negotiation.setLocalDescription answer = .ok ()) ∧
  ∃ localDescription,
    negotiation.marshalLocalDescription = .ok localDescription

/-- No step after the registration fails. -/
def FailsOnlyEarly (negotiation : Negotiation) (offerStr : String) : Prop :=
  ∀ offer, negotiation.TrackAdded offerStr offer → negotiation.Answerable offer

variable {negotiation : Negotiation} {offerStr : String}

theorem addVideoTrack_eq_ok_iff {offer : SessionDescription} :
    negotiation.addVideoTrack offerStr = .ok offer ↔
      negotiation.TrackAdded offerStr offer := by
  unfold addVideoTrack TrackAdded
  cases negotiation.decodeString offerStr with
  | error err => simp [bind, Except.bind]
  | ok b =>
      cases parsed : negotiation.unmarshal b with
      | error err => simp [bind, Except.bind, parsed]
      | ok parsedOffer =>
          cases tracked : negotiation.newTrackLocalStaticSample
            (resolveCodec negotiation.videoCodecPreference parsedOffer.sdp)
          <;> cases negotiation.addTrack
          <;> simp [bind, Except.bind, pure, Except.pure, parsed, tracked]
          <;> rintro rfl
          <;> simp [tracked]

theorem answerOffer_returns_iff {offer : SessionDescription} :
    (∃ sd, negotiation.answerOffer offer = .ok sd) ↔
      negotiation.Answerable offer := by
  unfold answerOffer Answerable
  cases negotiation.setRemoteDescription offer with
  | error err => simp [bind, Except.bind]
  | ok =>
      cases negotiation.createAnswer with
      | error err => simp [bind, Except.bind]
      | ok answer =>
          cases set : negotiation.setLocalDescription answer
          <;> cases negotiation.marshalLocalDescription
          <;> simp [bind, Except.bind, pure, Except.pure, set]

/-- A call of `ExchangeOffer` leaves the registry alone and fails, registers
the session and fails, or registers the session and succeeds. -/
theorem exchangeOffer_cases (negotiation : Negotiation)
    (registry : SessionRegistry) (id offerStr : String) :
    (∃ err, negotiation.exchangeOffer registry id offerStr =
        (registry, .error err) ∧ negotiation.FailsOnlyEarly offerStr) ∨
    (∃ err, negotiation.exchangeOffer registry id offerStr =
        (registry.add id, .error err) ∧
      ¬ negotiation.FailsOnlyEarly offerStr) ∨
    ∃ sd, negotiation.exchangeOffer registry id offerStr =
        (registry.add id, .ok sd) ∧ negotiation.FailsOnlyEarly offerStr := by
  unfold exchangeOffer FailsOnlyEarly
  cases added : negotiation.addVideoTrack offerStr with
  | error err =>
      refine .inl ⟨err, rfl, fun offer trackAdded => ?_⟩
      rw [addVideoTrack_eq_ok_iff.mpr trackAdded] at added
      cases added
  | ok offer =>
      have trackAdded := addVideoTrack_eq_ok_iff.mp added
      cases answered : negotiation.answerOffer offer with
      | error err =>
          refine .inr (.inl ⟨err, by simp [answered], fun onlyEarly => ?_⟩)
          obtain ⟨sd, succeeds⟩ :=
            answerOffer_returns_iff.mpr (onlyEarly offer trackAdded)
          rw [answered] at succeeds
          cases succeeds
      | ok sd =>
          refine .inr (.inr ⟨sd, by simp [answered], fun other otherAdded => ?_⟩)
          have sameOffer := added.symm.trans (addVideoTrack_eq_ok_iff.mpr otherAdded)
          obtain rfl := Except.ok.inj sameOffer
          exact answerOffer_returns_iff.mp ⟨sd, answered⟩

end Negotiation

inductive SignalingPath where
  | http
  | localWebSocket
  | cloudWebSocket
  deriving DecidableEq, Repr

/-- A request for a session.  `id` is the UUID a new session would get. -/
structure SessionRequest where
  path : SignalingPath
  body : Except String Unit
  authenticateSession : Except String Unit
  newSession : Except String Unit
  id : String
  sd : String
  negotiation : Negotiation

/-- What the handlers do before they exchange the offer: only the cloud path
authenticates each request. -/
def SessionRequest.openSession (request : SessionRequest) :
    Except String Unit := do
  request.body
  if request.path = .cloudWebSocket then
    request.authenticateSession
  request.newSession

/-- The session is opened and registered, and then its offer fails. -/
def SessionRequest.FailsRegistered (request : SessionRequest) : Prop :=
  request.openSession = .ok () ∧
    ¬ request.negotiation.FailsOnlyEarly request.sd

/-- What releases the input of the host once no peers remain. -/
inductive HostInputCall where
  | cancelKeyboardMacro
  | cancelAllAutoReleaseTimers
  | keyboardReport (modifier : UInt8) (keys : List UInt8)
  deriving DecidableEq, Repr

def keyboardClearStateKeys : List UInt8 :=
  List.replicate HidRpc.hidKeyBufferSize 0

def lastSessionCleanup : List HostInputCall :=
  [.cancelKeyboardMacro, .cancelAllAutoReleaseTimers,
    .keyboardReport 0 keyboardClearStateKeys]

/-- The globals, and the history of the sessions: which were opened, whose
offer succeeded, whose ICE connection was closed. -/
structure Sessions where
  registry : SessionRegistry := {}
  currentSession : Option String := none
  hostInputCalls : List HostInputCall := []
  opened : List String := []
  accepted : List String := []
  closed : List String := []
  deriving DecidableEq, Repr

inductive Label where
  | handleSessionRequest (request : SessionRequest)
  | iceConnectionClosed (id : String) (visited : Nat)

namespace Sessions

/-- `handleWebRTCSession` and `handleSessionRequest`. -/
def handleSessionRequest (state : Sessions) (request : SessionRequest) :
    Sessions × Except String String :=
  match request.openSession with
  | .error err => (state, .error err)
  | .ok () =>
      let (registry, answer) :=
        request.negotiation.exchangeOffer state.registry request.id request.sd
      let opened :=
        { state with registry := registry, opened := request.id :: state.opened }
      match answer with
      | .error err => (opened, .error err)
      | .ok sd =>
          ({ opened with
            currentSession := some request.id
            accepted := request.id :: state.accepted }, .ok sd)

def iceConnectionClosed (state : Sessions) (id : String) (visited : Nat) :
    Sessions :=
  let registry := state.registry.remove id visited
  { state with
    registry := registry
    hostInputCalls :=
      if registry.count = 0 then state.hostInputCalls ++ lastSessionCleanup
      else state.hostInputCalls
    currentSession :=
      if state.currentSession = some id then none else state.currentSession
    closed := id :: state.closed }

/-- UUIDs are not issued twice, and an ICE connection is closed once. -/
def step (state : Sessions) : Label → Option Sessions
  | .handleSessionRequest request =>
      if request.id ≠ "" ∧ request.id ∉ state.opened then
        some (state.handleSessionRequest request).1
      else none
  | .iceConnectionClosed id visited =>
      if id ∈ state.opened ∧ id ∉ state.closed then
        some (state.iceConnectionClosed id visited)
      else none

/-- What a request for a session can do to the globals. -/
theorem handleSessionRequest_cases (state : Sessions)
    (request : SessionRequest) :
    (∃ err, state.handleSessionRequest request = (state, .error err) ∧
      ¬ request.FailsRegistered) ∨
    (∃ err, state.handleSessionRequest request =
        ({ state with opened := request.id :: state.opened }, .error err) ∧
      ¬ request.FailsRegistered) ∨
    (∃ err, state.handleSessionRequest request =
        ({ state with
          registry := state.registry.add request.id
          opened := request.id :: state.opened }, .error err) ∧
      request.FailsRegistered) ∨
    ∃ sd, state.handleSessionRequest request =
        ({ state with
          registry := state.registry.add request.id
          opened := request.id :: state.opened
          currentSession := some request.id
          accepted := request.id :: state.accepted }, .ok sd) ∧
      ¬ request.FailsRegistered := by
  unfold handleSessionRequest SessionRequest.FailsRegistered
  cases request.openSession with
  | error err => exact .inl ⟨err, rfl, nofun⟩
  | ok =>
      right
      rcases request.negotiation.exchangeOffer_cases state.registry
        request.id request.sd with
        ⟨err, exchanged, onlyEarly⟩ | ⟨err, exchanged, late⟩ |
        ⟨sd, exchanged, onlyEarly⟩
      · exact .inl ⟨err, by simp [exchanged], fun fails => fails.2 onlyEarly⟩
      · exact .inr (.inl ⟨err, by simp [exchanged], rfl, late⟩)
      · exact .inr (.inr ⟨sd, by simp [exchanged],
          fun fails => fails.2 onlyEarly⟩)

/-- What a step can do, with the sessions it opens, accepts and closes. -/
inductive Effect (state : Sessions) : Label → Sessions → Prop
  | refused {request : SessionRequest} (err : String)
      (handled : state.handleSessionRequest request = (state, .error err))
      (unregistered : ¬ request.FailsRegistered) :
      Effect state (.handleSessionRequest request) state
  | failed {request : SessionRequest} (err : String)
      (handled : state.handleSessionRequest request =
        ({ state with opened := request.id :: state.opened }, .error err))
      (unregistered : ¬ request.FailsRegistered) :
      Effect state (.handleSessionRequest request)
        { state with opened := request.id :: state.opened }
  | failedRegistered {request : SessionRequest} (err : String)
      (named : request.id ≠ "") (fresh : request.id ∉ state.opened)
      (handled : state.handleSessionRequest request =
        ({ state with
          registry := state.registry.add request.id
          opened := request.id :: state.opened }, .error err))
      (registered : request.FailsRegistered) :
      Effect state (.handleSessionRequest request)
        { state with
          registry := state.registry.add request.id
          opened := request.id :: state.opened }
  | accepted {request : SessionRequest} (sd : String)
      (named : request.id ≠ "") (fresh : request.id ∉ state.opened)
      (handled : (state.handleSessionRequest request).2 = .ok sd)
      (unregistered : ¬ request.FailsRegistered) :
      Effect state (.handleSessionRequest request)
        { state with
          registry := state.registry.add request.id
          opened := request.id :: state.opened
          currentSession := some request.id
          accepted := request.id :: state.accepted }
  | closed {id : String} (visited : Nat)
      (opened : id ∈ state.opened) (notClosed : id ∉ state.closed) :
      Effect state (.iceConnectionClosed id visited)
        (state.iceConnectionClosed id visited)

theorem effect_of_step {state next : Sessions} {label : Label}
    (taken : state.step label = some next) : Effect state label next := by
  cases label with
  | handleSessionRequest request =>
      simp only [step] at taken
      split at taken
      case isTrue enabled =>
        obtain rfl := Option.some.inj taken
        obtain ⟨named, fresh⟩ := enabled
        rcases state.handleSessionRequest_cases request with
          ⟨err, handled, unregistered⟩ | ⟨err, handled, unregistered⟩ |
          ⟨err, handled, registered⟩ | ⟨sd, handled, unregistered⟩
        · rw [handled]
          exact .refused err handled unregistered
        · rw [handled]
          exact .failed err handled unregistered
        · rw [handled]
          exact .failedRegistered err named fresh handled registered
        · rw [handled]
          exact .accepted sd named fresh (by rw [handled]) unregistered
      case isFalse => cases taken
  | iceConnectionClosed id visited =>
      simp only [step] at taken
      split at taken
      case isTrue enabled =>
        obtain rfl := Option.some.inj taken
        exact .closed visited enabled.1 enabled.2
      case isFalse => cases taken

/-- In every run the registry lists opened sessions that are not closed, and
among them every such session whose offer succeeded. -/
structure Invariant (state : Sessions) : Prop where
  opened : ∀ {id}, id ∈ state.registry.byID → id ∈ state.opened
  notClosed : ∀ {id}, id ∈ state.registry.byID → id ∉ state.closed
  primary : ∀ {id}, state.registry.primary = some id →
    id ∈ state.registry.byID
  acceptedOpened : ∀ {id}, id ∈ state.accepted → id ∈ state.opened
  closedOpened : ∀ {id}, id ∈ state.closed → id ∈ state.opened
  acceptedListed : ∀ {id}, id ∈ state.accepted → id ∉ state.closed →
    id ∈ state.registry.byID

theorem Invariant.initial : Invariant {} where
  opened := nofun
  notClosed := nofun
  primary := nofun
  acceptedOpened := nofun
  closedOpened := nofun
  acceptedListed := nofun

/-- Adding a fresh session puts it in front of the others. -/
theorem Invariant.add_fresh {state : Sessions} {id : String}
    (invariant : state.Invariant) (named : id ≠ "")
    (fresh : id ∉ state.opened) :
    state.registry.add id =
      { byID := id :: state.registry.byID, primary := some id } := by
  have unchanged : state.registry.byID.filter (· ≠ id) =
      state.registry.byID := by
    rw [List.filter_eq_self]
    intro other listed
    have distinct : other ≠ id :=
      fun same => fresh (same ▸ invariant.opened listed)
    simpa using distinct
  rw [SessionRegistry.add_of_ne named, unchanged]

theorem Invariant.step {state next : Sessions} {label : Label}
    (invariant : state.Invariant) (taken : state.step label = some next) :
    next.Invariant := by
  cases effect_of_step taken with
  | refused err handled unregistered => exact invariant
  | failed err handled unregistered =>
      exact
        { opened := fun listed => .tail _ (invariant.opened listed)
          notClosed := invariant.notClosed
          primary := invariant.primary
          acceptedOpened := fun accepted =>
            .tail _ (invariant.acceptedOpened accepted)
          closedOpened := fun closed => .tail _ (invariant.closedOpened closed)
          acceptedListed := invariant.acceptedListed }
  | failedRegistered err named fresh handled registered =>
      rw [invariant.add_fresh named fresh]
      exact
        { opened := fun listed => by
            rcases List.mem_cons.mp listed with rfl | old
            · exact .head _
            · exact .tail _ (invariant.opened old)
          notClosed := fun listed closed => by
            rcases List.mem_cons.mp listed with rfl | old
            · exact fresh (invariant.closedOpened closed)
            · exact invariant.notClosed old closed
          primary := fun same => by
            obtain rfl := Option.some.inj same
            exact .head _
          acceptedOpened := fun accepted =>
            .tail _ (invariant.acceptedOpened accepted)
          closedOpened := fun closed => .tail _ (invariant.closedOpened closed)
          acceptedListed := fun accepted notClosed =>
            .tail _ (invariant.acceptedListed accepted notClosed) }
  | accepted sd named fresh handled unregistered =>
      rw [invariant.add_fresh named fresh]
      exact
        { opened := fun listed => by
            rcases List.mem_cons.mp listed with rfl | old
            · exact .head _
            · exact .tail _ (invariant.opened old)
          notClosed := fun listed closed => by
            rcases List.mem_cons.mp listed with rfl | old
            · exact fresh (invariant.closedOpened closed)
            · exact invariant.notClosed old closed
          primary := fun same => by
            obtain rfl := Option.some.inj same
            exact .head _
          acceptedOpened := fun accepted => by
            rcases List.mem_cons.mp accepted with rfl | old
            · exact .head _
            · exact .tail _ (invariant.acceptedOpened old)
          closedOpened := fun closed => .tail _ (invariant.closedOpened closed)
          acceptedListed := fun accepted notClosed => by
            rcases List.mem_cons.mp accepted with rfl | old
            · exact .head _
            · exact .tail _ (invariant.acceptedListed old notClosed) }
  | @closed id visited opened notClosed =>
      exact
        { opened := fun listed =>
            invariant.opened (SessionRegistry.mem_byID_remove.mp listed).1
          notClosed := fun listed closed => by
            obtain ⟨old, distinct⟩ := SessionRegistry.mem_byID_remove.mp listed
            rcases List.mem_cons.mp closed with same | earlier
            · exact distinct same
            · exact invariant.notClosed old earlier
          primary := SessionRegistry.mem_of_primary_remove invariant.primary
          acceptedOpened := invariant.acceptedOpened
          closedOpened := fun closed => by
            rcases List.mem_cons.mp closed with rfl | earlier
            · exact opened
            · exact invariant.closedOpened earlier
          acceptedListed := fun accepted stillOpen => by
            have distinct := List.ne_of_not_mem_cons stillOpen
            have notEarlier := List.not_mem_of_not_mem_cons stillOpen
            exact SessionRegistry.mem_byID_remove.mpr
              ⟨invariant.acceptedListed accepted notEarlier, distinct⟩ }

/-! ## Failed offers -/

/-- A failed request leaves the registry as it was, and the close of the last
session whose offer succeeded releases the input of the host. -/
def CleansUp (state : Sessions) : Label → Prop
  | .handleSessionRequest request =>
      ∀ err, (state.handleSessionRequest request).2 = .error err →
        (state.handleSessionRequest request).1.registry = state.registry
  | .iceConnectionClosed id visited =>
      let next := state.iceConnectionClosed id visited
      (∀ other ∈ next.accepted, other ∈ next.closed) →
        next.registry.count = 0 ∧
          next.hostInputCalls = state.hostInputCalls ++ lastSessionCleanup

/-- Every registered session belongs to an offer that succeeded, so that none
is left once those are closed. -/
structure ListsAccepted (state : Sessions) : Prop where
  accepted : ∀ {id}, id ∈ state.registry.byID → id ∈ state.accepted
  emptied : (∀ id ∈ state.accepted, id ∈ state.closed) →
    state.registry.count = 0

/-- No offer fails after its session was registered. -/
def FailsUnregistered (_ : Sessions) : Label → Prop
  | .handleSessionRequest request => ¬ request.FailsRegistered
  | .iceConnectionClosed _ _ => True

variable {state next : Sessions} {label : Label}

theorem Invariant.listsAccepted (invariant : state.Invariant)
    (accepted : ∀ {id}, id ∈ state.registry.byID → id ∈ state.accepted) :
    state.ListsAccepted where
  accepted := accepted
  emptied := fun allClosed => by
    rw [SessionRegistry.count, List.length_eq_zero_iff]
    apply List.eq_nil_iff_forall_not_mem.mpr
    intro id listed
    exact invariant.notClosed listed (allClosed id (accepted listed))

theorem ListsAccepted.step (invariant : state.Invariant)
    (lists : state.ListsAccepted) (unregistered : state.FailsUnregistered label)
    (taken : Sessions.step state label = some next) : next.ListsAccepted := by
  have nextInvariant := invariant.step taken
  apply nextInvariant.listsAccepted
  cases effect_of_step taken with
  | refused => exact lists.accepted
  | failed => exact lists.accepted
  | failedRegistered err named fresh handled registered =>
      exact absurd registered unregistered
  | accepted sd named fresh handled unregistered =>
      intro id listed
      rw [invariant.add_fresh named fresh] at listed
      rcases List.mem_cons.mp listed with rfl | old
      · exact .head _
      · exact .tail _ (lists.accepted old)
  | closed visited opened notClosed =>
      intro id listed
      exact lists.accepted (SessionRegistry.mem_byID_remove.mp listed).1

/-- A step cleans up exactly when it is no offer that fails registered. -/
theorem cleansUp_iff_failsUnregistered (invariant : state.Invariant)
    (lists : state.ListsAccepted)
    (taken : Sessions.step state label = some next) :
    state.FailsUnregistered label ↔ state.CleansUp label := by
  have nextLists := fun unregistered =>
    lists.step invariant unregistered taken
  cases effect_of_step taken with
  | refused err handled unregistered =>
      exact iff_of_true unregistered fun _ _ => by rw [handled]
  | failed err handled unregistered =>
      exact iff_of_true unregistered fun _ _ => by rw [handled]
  | @failedRegistered request err named fresh handled registered =>
      refine iff_of_false (fun unregistered => unregistered registered) ?_
      intro cleansUp
      have unchanged := cleansUp err (by rw [handled])
      rw [handled] at unchanged
      have listed : request.id ∈ (state.registry.add request.id).byID := by
        rw [invariant.add_fresh named fresh]
        exact .head _
      rw [show state.registry.add request.id = state.registry from unchanged]
        at listed
      exact fresh (invariant.opened listed)
  | accepted sd named fresh handled unregistered =>
      refine iff_of_true unregistered fun err failed => ?_
      rw [handled] at failed
      cases failed
  | @closed id visited opened notClosed =>
      refine iff_of_true trivial fun allClosed => ?_
      have emptied := (nextLists trivial).emptied allClosed
      exact ⟨emptied, if_pos emptied⟩

/-- The runs in which failed offers leave the registry alone, registered
sessions have succeeded and the last close cleans up are exactly those in
which no offer fails after the session was registered. -/
theorem cleansUp_iff_no_offer_failsRegistered (labels : List Label) :
    (AllSteps step CleansUp {} labels ∧ AllStates step ListsAccepted {} labels) ↔
      AllSteps step FailsUnregistered {} labels := by
  have initial : Invariant {} ∧ ListsAccepted {} :=
    ⟨Invariant.initial, Invariant.initial.listsAccepted nofun⟩
  refine @allSteps_and_allStates_iff Sessions Label step
    (fun state => state.Invariant ∧ state.ListsAccepted) ListsAccepted
    FailsUnregistered CleansUp (fun both => both.2) ?_ ?_ {} initial labels
  · intro state next label both unregistered taken
    exact ⟨both.1.step taken, both.2.step both.1 unregistered taken⟩
  · intro state next label both taken
    exact cleansUp_iff_failsUnregistered both.1 both.2 taken

/-- An offer whose session description the peer connection rejects, sent to
`/webrtc/session`. -/
def rejectedOffer (id : String) : SessionRequest where
  path := .http
  body := .ok ()
  authenticateSession := .ok ()
  newSession := .ok ()
  id := id
  sd := "eyJ0eXBlIjoib2ZmZXIiLCJzZHAiOiIifQ=="
  negotiation :=
    { decodeString := fun _ => .ok []
      unmarshal := fun _ => .ok ⟨""⟩
      newTrackLocalStaticSample := fun _ => .ok ()
      addTrack := .ok ()
      setRemoteDescription := fun _ => .error "EOF"
      createAnswer := .error "remote description is not set"
      setLocalDescription := fun _ => .ok ()
      marshalLocalDescription := .ok []
      encodeToString := fun _ => "" }

/-- The same request with an offer that is answered. -/
def answeredOffer (id : String) : SessionRequest :=
  { rejectedOffer id with
    negotiation :=
      { (rejectedOffer id).negotiation with
        setRemoteDescription := fun _ => .ok ()
        createAnswer := .ok ⟨""⟩ } }

/-- The rejected session stays registered when the other one is closed. -/
theorem rejected_offer_stays_registered :
    ¬ (AllSteps step CleansUp {}
        [.handleSessionRequest (rejectedOffer "a"),
          .handleSessionRequest (answeredOffer "b"),
          .iceConnectionClosed "b" 0] ∧
      AllStates step ListsAccepted {}
        [.handleSessionRequest (rejectedOffer "a"),
          .handleSessionRequest (answeredOffer "b"),
          .iceConnectionClosed "b" 0]) := by
  rintro ⟨-, everywhere⟩
  have last := everywhere.last rfl
  have emptied := last.emptied (by decide)
  exact absurd emptied (by decide)

/-! ## The current and the primary session -/

/-- While sessions are registered the current session is one of them, and the
primary one is the one added last. -/
structure Tracked (state : Sessions) : Prop where
  current : state.registry.byID ≠ [] →
    ∃ id ∈ state.registry.byID, state.currentSession = some id
  primary : state.registry.byID ≠ [] →
    state.registry.primary = state.registry.mostRecentlyAdded
  empty : state.registry.byID = [] →
    state.currentSession = none ∧ state.registry.primary = none

/-- A registered session whose offer fails is not the only one, and a session
that leaves others behind is not the current one; if it was the primary one,
the map iteration happens to visit the session added last first. -/
def KeepsTrack (state : Sessions) : Label → Prop
  | .handleSessionRequest request =>
      request.FailsRegistered → state.registry.byID ≠ []
  | .iceConnectionClosed id visited =>
      let remaining := state.registry.byID.filter (· ≠ id)
      remaining = [] ∨
        state.currentSession ≠ some id ∧
          (state.registry.primary = some id →
            remaining[visited % remaining.length]? = remaining.head?)

theorem tracked_initial : Tracked {} where
  current := fun nonempty => absurd rfl nonempty
  primary := fun nonempty => absurd rfl nonempty
  empty := fun _ => ⟨rfl, rfl⟩

theorem Tracked.primary_eq_head (tracked : state.Tracked) :
    state.registry.primary = state.registry.byID.head? := by
  by_cases nonempty : state.registry.byID = []
  · rw [(tracked.empty nonempty).2, nonempty]
    rfl
  · exact tracked.primary nonempty

/-- A close after which no session is left leaves neither record behind. -/
theorem Tracked.close_last (tracked : state.Tracked) {id : String}
    {visited : Nat}
    (noneLeft : state.registry.byID.filter (· ≠ id) = []) :
    (state.iceConnectionClosed id visited).Tracked := by
  have onlyThis : ∀ other ∈ state.registry.byID, other = id := by
    simpa using noneLeft
  refine ⟨fun left => absurd noneLeft left, fun left => absurd noneLeft left,
    fun _ => ?_⟩
  by_cases empty : state.registry.byID = []
  · obtain ⟨noCurrent, noPrimary⟩ := tracked.empty empty
    simp [iceConnectionClosed, SessionRegistry.remove, noCurrent, noPrimary]
  · obtain ⟨current, listed, isCurrent⟩ := tracked.current empty
    obtain rfl := onlyThis current listed
    have isPrimary : state.registry.primary = some current := by
      obtain ⟨first, rest, shape⟩ := List.exists_cons_of_ne_nil empty
      rw [tracked.primary_eq_head, shape, List.head?_cons,
        onlyThis first (by simp [shape])]
    simp only [iceConnectionClosed, SessionRegistry.remove, isCurrent,
      isPrimary, noneLeft, if_true, List.getElem?_nil, and_self]

/-- A close that leaves sessions behind keeps track of them exactly when it
meets the condition. -/
theorem tracked_iceConnectionClosed_iff (tracked : state.Tracked)
    (id : String) (visited : Nat) :
    (state.iceConnectionClosed id visited).Tracked ↔
      state.KeepsTrack (.iceConnectionClosed id visited) := by
  by_cases noneLeft : state.registry.byID.filter (· ≠ id) = []
  · exact iff_of_true (tracked.close_last noneLeft) (.inl noneLeft)
  have nonempty : state.registry.byID ≠ [] := by
    intro empty
    simp [empty] at noneLeft
  obtain ⟨current, listed, isCurrent⟩ := tracked.current nonempty
  have isHead := tracked.primary_eq_head
  constructor
  · intro nextTracked
    have nextHead := nextTracked.primary noneLeft
    obtain ⟨nextCurrent, nextListed, isNextCurrent⟩ :=
      nextTracked.current noneLeft
    refine .inr ⟨fun wasCurrent => ?_, fun wasPrimary => ?_⟩
    · simp [iceConnectionClosed, wasCurrent] at isNextCurrent
    · simpa [iceConnectionClosed, SessionRegistry.remove, wasPrimary,
        SessionRegistry.mostRecentlyAdded] using nextHead
  · intro keeps
    obtain ⟨notCurrent, visitsFirst⟩ := keeps.resolve_left noneLeft
    have distinct : current ≠ id := fun same =>
      notCurrent (same ▸ isCurrent)
    refine ⟨fun _ => ⟨current, ?_, ?_⟩, fun _ => ?_,
      fun empty => absurd empty noneLeft⟩
    · exact SessionRegistry.mem_byID_remove.mpr ⟨listed, distinct⟩
    · simp [iceConnectionClosed, isCurrent, distinct]
    · simp only [iceConnectionClosed, SessionRegistry.remove,
        SessionRegistry.mostRecentlyAdded]
      split
      case isTrue wasPrimary => exact visitsFirst wasPrimary
      case isFalse notPrimary =>
        obtain ⟨first, rest, shape⟩ := List.exists_cons_of_ne_nil nonempty
        rw [isHead, shape, List.head?_cons] at notPrimary ⊢
        have kept : first ≠ id := fun same => notPrimary (congrArg some same)
        simp [kept]

theorem Tracked.step (invariant : state.Invariant) (tracked : state.Tracked)
    (keeps : state.KeepsTrack label)
    (taken : Sessions.step state label = some next) : next.Tracked := by
  cases effect_of_step taken with
  | refused => exact tracked
  | failed => exact ⟨tracked.current, tracked.primary, tracked.empty⟩
  | failedRegistered err named fresh handled registered =>
      obtain ⟨current, listed, isCurrent⟩ := tracked.current (keeps registered)
      rw [invariant.add_fresh named fresh]
      exact
        { current := fun _ => ⟨current, .tail _ listed, isCurrent⟩
          primary := fun _ => rfl
          empty := nofun }
  | accepted sd named fresh handled unregistered =>
      rw [invariant.add_fresh named fresh]
      exact
        { current := fun _ => ⟨_, .head _, rfl⟩
          primary := fun _ => rfl
          empty := nofun }
  | closed visited opened notClosed =>
      exact (tracked_iceConnectionClosed_iff tracked _ visited).mpr keeps

theorem keepsTrack_of_tracked (invariant : state.Invariant)
    (tracked : state.Tracked) (taken : Sessions.step state label = some next)
    (nextTracked : next.Tracked) : state.KeepsTrack label := by
  cases effect_of_step taken with
  | refused err handled unregistered =>
      exact fun registered => absurd registered unregistered
  | failed err handled unregistered =>
      exact fun registered => absurd registered unregistered
  | failedRegistered err named fresh handled registered =>
      -- with an empty registry there is no current session to fall back on
      intro _ empty
      rw [invariant.add_fresh named fresh] at nextTracked
      obtain ⟨current, listed, isCurrent⟩ := nextTracked.current nofun
      have none := (tracked.empty empty).1
      rw [show state.currentSession = some current from isCurrent] at none
      cases none
  | accepted sd named fresh handled unregistered =>
      exact fun registered => absurd registered unregistered
  | closed visited opened notClosed =>
      exact (tracked_iceConnectionClosed_iff tracked _ visited).mp nextTracked

/-- The sessions are tracked in every state of a run exactly when every step
of it keeps track. -/
theorem tracked_iff_keepsTrack (labels : List Label) :
    AllStates step Tracked {} labels ↔ AllSteps step KeepsTrack {} labels := by
  refine allStates_iff_allSteps_of_invariant ?_ ?_ Invariant.initial
    tracked_initial labels
  · intro state next label invariant taken
    exact invariant.step taken
  · intro state next label invariant tracked taken
    constructor
    · intro nextTracked
      exact keepsTrack_of_tracked invariant tracked taken nextTracked
    · intro keeps
      exact tracked.step invariant keeps taken

/-- Two sessions connect and the one that connected last is closed. -/
theorem closing_the_current_session_loses_track :
    ¬ AllStates step Tracked {}
      [.handleSessionRequest (answeredOffer "a"),
        .handleSessionRequest (answeredOffer "b"),
        .iceConnectionClosed "b" 0] := by
  intro tracked
  obtain ⟨id, -, isCurrent⟩ := (tracked.last rfl).current (by decide)
  cases isCurrent

end Sessions

end Signaling

end JetKvm
