import JetKvm.ConfigDurability
import JetKvm.FallibleCalls

/-!
# Registration with the cloud

Translation of `handleCloudRegister` in `cloud.go`.  The token is stored as soon
as the cloud has given it out, the identity only after the provider and the ID
token were accepted, and neither is taken back when a later step fails.
-/

namespace JetKvm

namespace CloudRegistration

open ConfigDurability Fallible

structure CloudRegisterRequest where
  token : String
  cloudAPI : String
  oidcGoogle : String
  clientId : String
  deriving DecidableEq, Repr

/-- A token that was verified: the client is one of its audience. -/
structure IDToken where
  audience : List String
  subject : String
  addressed : audience ≠ []

def IDToken.identity (idToken : IDToken) : String :=
  idToken.audience.head idToken.addressed ++ ":" ++ idToken.subject

structure ApiRequest where
  url : String
  body : String
  deriving DecidableEq, Repr

/-- The answer of the cloud, and what its body decodes to -/
structure ApiResponse where
  statusCode : Int
  status : String
  secretToken : Except String String

structure Reply where
  statusCode : Int
  body : String
  deriving DecidableEq, Repr

/-- What the calls of one request return -/
structure Outside where
  shouldBindJSON : Except String CloudRegisterRequest
  marshal : String → Except String String
  newRequest : String → String → Except String ApiRequest
  doRequest : ApiRequest → Except String ApiResponse
  newProvider : Except String Unit
  verify : (clientId : String) → (oidcGoogle : String) → Except String IDToken
  save : Except String Unit

/-- An error is answered with the status and a text that may tell it. -/
def replying {α : Type} (statusCode : Int) (text : String → String) :
    Except String α → Except Reply α
  | .ok value => .ok value
  | .error err => .error ⟨statusCode, text err⟩

def refuseIf (condition : Prop) [Decidable condition] (reply : Reply) :
    Except Reply Unit :=
  if condition then .error reply else .ok ()

section Handler

variable (outside : Outside)

/-- Exchange the temporary token for a permanent auth token -/
def exchangeToken (cloudURL : String) :
    Except Reply (CloudRegisterRequest × String) := do
  let req ← replying 400 (fun _ => "Invalid request body")
    outside.shouldBindJSON
  let jsonPayload ← replying 500 ("Failed to encode JSON payload: " ++ ·)
    (outside.marshal req.token)
  let apiReq ← replying 500 ("Failed to create register request: " ++ ·)
    (outside.newRequest (cloudURL ++ "/devices/token") jsonPayload)
  let apiResp ← replying 500 ("Failed to exchange token: " ++ ·)
    (outside.doRequest apiReq)
  refuseIf (apiResp.statusCode ≠ 200)
    ⟨apiResp.statusCode, "Failed to exchange token: " ++ apiResp.status⟩
  let secretToken ← replying 500 ("Failed to parse token response: " ++ ·)
    apiResp.secretToken
  refuseIf (secretToken = "") ⟨500, "Received empty secret token"⟩
  return (req, secretToken)

def verifyIdentity (req : CloudRegisterRequest) : Except Reply IDToken := do
  replying 500 (fun _ => "Failed to initialize OIDC provider")
    outside.newProvider
  replying 400 (fun _ => "Invalid OIDC token")
    (outside.verify req.clientId req.oidcGoogle)

def saveConfig : Fallible Reply Config Unit := do
  modify fixup
  answer (replying 500 (fun _ => "Failed to save configuration") outside.save)

def handleCloudRegister : Fallible Reply Config Reply := do
  let config ← get
  let (req, secretToken) ← answer (exchangeToken outside config.cloudURL)
  modify fun config => { config with cloudToken := secretToken }
  let idToken ← answer (verifyIdentity outside req)
  modify fun config => { config with googleIdentity := idToken.identity }
  saveConfig outside
  pure ⟨200, "Cloud registration successful"⟩

/-! ### What a registration should do -/

/-- The token and the identity are those of the request. -/
def Registered (config after : Config) : Prop :=
  ∃ req token idToken, exchangeToken outside config.cloudURL = .ok (req, token) ∧
    verifyIdentity outside req = .ok idToken ∧
    after.cloudToken = token ∧ after.googleIdentity = idToken.identity

structure Answered (config after : Config) (reply : Reply) : Prop where
  refused : reply.statusCode ≠ 200 → after.cloudToken = config.cloudToken ∧
    after.googleIdentity = config.googleIdentity
  registered : reply.statusCode = 200 → Registered outside config after

def Atomic (config : Config) : Prop :=
  Ends (handleCloudRegister outside) config
    (fun reply after => Answered outside config after reply)
    fun reply after => Answered outside config after reply

/-- Once the cloud has given out a token, all goes well, or nothing new was
given out or verified. -/
def Harmless (config : Config) : Prop :=
  ∀ req token, exchangeToken outside config.cloudURL = .ok (req, token) →
    (verifyIdentity outside req).isOk ∧ outside.save.isOk ∨
      token = config.cloudToken ∧
        ∀ idToken, verifyIdentity outside req = .ok idToken →
          idToken.identity = config.googleIdentity

end Handler

/-! ### Refusals -/

/-- What is refused is not answered with 200. -/
def Refuses {α : Type} (check : Except Reply α) : Prop :=
  ∀ reply, check = .error reply → reply.statusCode ≠ 200

section Refusals

variable {α β : Type}

theorem refuses_replying {statusCode : Int} (other : statusCode ≠ 200)
    (text : String → String) (outcome : Except String α) :
    Refuses (replying statusCode text outcome) := by
  intro reply replied
  cases outcome with
  | ok value => cases replied
  | error err =>
      cases replied
      exact other

theorem refuses_pure (value : α) : Refuses (pure value) := nofun

theorem refuses_refuseIf {condition : Prop} [Decidable condition] {reply : Reply}
    (other : condition → reply.statusCode ≠ 200) :
    Refuses (refuseIf condition reply) := by
  unfold refuseIf
  split
  · intro refused same
    cases same
    exact other ‹_›
  · exact refuses_pure ()

theorem Refuses.bind {check : Except Reply α} {next : α → Except Reply β}
    (first : Refuses check) (second : ∀ value, Refuses (next value)) :
    Refuses (check >>= next) := by
  intro reply refused
  cases checked : check with
  | error early =>
      rw [checked] at refused
      cases refused
      exact first reply checked
  | ok value =>
      rw [checked] at refused
      exact second value reply refused

variable (outside : Outside)

theorem refuses_exchangeToken (cloudURL : String) :
    Refuses (exchangeToken outside cloudURL) := by
  refine (refuses_replying (by decide) _ _).bind fun req => ?_
  refine (refuses_replying (by decide) _ _).bind fun jsonPayload => ?_
  refine (refuses_replying (by decide) _ _).bind fun apiReq => ?_
  refine (refuses_replying (by decide) _ _).bind fun apiResp => ?_
  refine Refuses.bind (refuses_refuseIf ?_) fun _ => ?_
  · exact id
  refine (refuses_replying (by decide) _ _).bind fun secretToken => ?_
  exact (refuses_refuseIf fun _ => by decide).bind fun _ => refuses_pure _

theorem refuses_verifyIdentity (req : CloudRegisterRequest) :
    Refuses (verifyIdentity outside req) :=
  (refuses_replying (by decide) _ _).bind fun _ =>
    refuses_replying (by decide) _ _

end Refusals

/-! ### The whole request -/

section Requests

variable {outside : Outside} {config : Config}

theorem answered_of_refused {reply : Reply} (other : reply.statusCode ≠ 200)
    {after : Config} :
    Answered outside config after reply ↔
      after.cloudToken = config.cloudToken ∧
        after.googleIdentity = config.googleIdentity :=
  ⟨fun answered => answered.refused other,
    fun same => ⟨fun _ => same, fun accepted => absurd accepted other⟩⟩

theorem atomic_of_refused {reply : Reply}
    (refused : exchangeToken outside config.cloudURL = .error reply) :
    Atomic outside config := by
  unfold Atomic handleCloudRegister
  simp only [ends_bind, ends_get, refused, answer_error, ends_throw]
  have other := refuses_exchangeToken outside config.cloudURL reply refused
  exact (answered_of_refused other).mpr ⟨rfl, rfl⟩

/-- A request that has got a token, seen from there -/
theorem atomic_iff_of_exchanged {req : CloudRegisterRequest} {token : String}
    (exchanged : exchangeToken outside config.cloudURL = .ok (req, token)) :
    Atomic outside config ↔
      (verifyIdentity outside req).isOk ∧ outside.save.isOk ∨
        token = config.cloudToken ∧
          ∀ idToken, verifyIdentity outside req = .ok idToken →
            idToken.identity = config.googleIdentity := by
  unfold Atomic handleCloudRegister
  simp only [ends_bind, ends_get, exchanged, answer_ok, ends_pure, ends_modify]
  cases verified : verifyIdentity outside req with
  | error reply =>
      have other := refuses_verifyIdentity outside req reply verified
      simp only [answer_error, ends_throw, answered_of_refused other]
      simp [Except.isOk, Except.toBool]
  | ok idToken =>
      simp only [answer_ok, ends_pure, saveConfig, ends_bind, ends_modify]
      cases saved : outside.save with
      | error err =>
          have other : ¬ (500 : Int) = 200 := by decide
          simp only [replying, answer_error, ends_throw]
          rw [answered_of_refused other]
          simp [fixup, Except.isOk, Except.toBool]
      | ok done =>
          simp only [replying, answer_ok, ends_pure]
          refine iff_of_true ⟨fun other => absurd rfl other, fun _ => ?_⟩
            (.inl ⟨rfl, rfl⟩)
          exact ⟨req, token, idToken, exchanged, verified, rfl, rfl⟩

end Requests

/-- A registration is atomic if and only if, once the cloud has given out a
token, all goes well or nothing new was given out or verified. -/
theorem cloudAtomic_iff_harmless (outside : Outside) (config : Config) :
    Atomic outside config ↔ Harmless outside config := by
  cases exchanged : exchangeToken outside config.cloudURL with
  | error reply =>
      refine iff_of_true (atomic_of_refused exchanged) fun req token other => ?_
      rw [exchanged] at other
      cases other
  | ok pair =>
      obtain ⟨req, token⟩ := pair
      rw [atomic_iff_of_exchanged exchanged]
      constructor
      · intro harmless other otherToken same
        rw [exchanged] at same
        cases same
        exact harmless
      · exact fun harmless => harmless req token exchanged

/-- A request whose ID token is not accepted -/
def rejectedIdToken : Outside where
  shouldBindJSON := .ok ⟨"temporary", "", "token", "client"⟩
  marshal token := .ok token
  newRequest url body := .ok ⟨url, body⟩
  doRequest _ := .ok ⟨200, "200 OK", .ok "secret"⟩
  newProvider := .ok ()
  verify _ _ := .error "oidc: token is expired"
  save := .ok ()

/-- The request is answered with 400, and the device has the new token. -/
theorem not_atomic_rejectedIdToken :
    ¬ ∀ (outside : Outside) (config : Config), Atomic outside config := by
  intro claimed
  have refused := (claimed rejectedIdToken {}).refused (by decide)
  exact absurd refused.1 (by decide)

end CloudRegistration

end JetKvm
