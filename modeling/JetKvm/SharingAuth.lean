import JetKvm.LocalAuth

/-!
# Authentication of guests and developers

Translation of `sharing_auth.go` and of `basicAuthProtectedMiddleware`.
-/

namespace JetKvm

namespace LocalAuth

open RateLimit

/-- `handleSharingLogin` up to the comparison: the response it answers with,
or nothing when the password is right. -/
def checkSharingPassword (server : Server) (call : Call) (body : Option String) :
    Server × Option Response :=
  if server.config.sharingPasswordHash = "" then
    (server, some { status := 403, message := "Sharing not enabled" })
  else if (server.isAllowed call).1 = false then
    (server, some (tooManyRequests (server.isAllowed call).2))
  else
    match body with
    | none => (server, some { status := 400, message := "Invalid request body" })
    | some password =>
        if call.compareHashAndPassword server.config.sharingPasswordHash
            password then
          (server.recordSuccess call, none)
        else
          (server.recordFailure call,
            some { status := 401, message := "Invalid sharing password" })

/-- The rest of `handleSharingLogin`. -/
def issueShareToken (server : Server) (newUUID : String) : Server × Response :=
  let sharingAuthToken :=
    if server.sharingAuthToken = "" then newUUID else server.sharingAuthToken
  ({ server with sharingAuthToken := sharingAuthToken },
    { status := 200, message := "Login successful",
      cookies := [("shareToken", sharingAuthToken)] })

def handleSharingLogin (server : Server) (call : Call) (body : Option String) :
    Server × Response :=
  match checkSharingPassword server call body with
  | (server, some response) => (server, response)
  | (server, none) => issueShareToken server call.newUUID

inductive Role where
  | admin
  | guest
  deriving DecidableEq, Repr

/-- `webrtcAuthMiddleware`: the role of a request with these cookies, or
nothing when it is rejected. -/
def webrtcAuthMiddleware (server : Server) (authToken shareToken : Option String) :
    Option Role :=
  if server.config.localAuthMode = "noPassword" then some .admin
  else if authToken.getD "" ≠ "" ∧
      authToken.getD "" = server.config.localAuthToken then some .admin
  else if (server.config.sharingPasswordHash ≠ "" ∧
      server.sharingAuthToken ≠ "") ∧
      shareToken = some server.sharingAuthToken then some .guest
  else none

def setSharing (server : Server) (sharingPasswordHash sharingAuthToken : String) :
    Server :=
  { server with
    config := { server.config with sharingPasswordHash := sharingPasswordHash }
    sharingAuthToken := sharingAuthToken }

/-- `rpcSetSharingPassword` with the error it returns. -/
def rpcSetSharingPassword (server : Server) (call : Call) (password : String) :
    Server × Except String Unit :=
  if password = "" then (setSharing server "" "", call.saveConfig)
  else
    match call.generateFromPassword with
    | .error err => (server, .error err)
    | .ok hash => (setSharing server hash call.newUUID, call.saveConfig)

/-- The rotation of the share token in `rpcKickAllClients`. -/
def rotateShareToken (server : Server) (newUUID : String) : Server :=
  if server.config.sharingPasswordHash ≠ "" then
    { server with sharingAuthToken := newUUID }
  else server

/-- `basicAuthProtectedMiddleware`: the response it aborts with, or nothing
when it lets the request through.  It asks no rate limiter. -/
def basicAuthProtectedMiddleware (server : Server) (call : Call)
    (requireDeveloperMode : Bool) (devModeState : Except String Bool)
    (basicAuth : Option String) : Option Response :=
  let authenticate : Option Response :=
    if server.config.localAuthMode = "noPassword" then
      some { status := 403,
             message := "The resource is not available in noPassword mode" }
    else
      match basicAuth with
      | none => some { status := 401, message := "Basic auth is required" }
      | some password =>
          if call.compareHashAndPassword server.config.hashedPassword password then
            none
          else some { status := 401, message := "Invalid password" }
  if requireDeveloperMode then
    match devModeState with
    | .error _ =>
        some { status := 500, message := "Failed to get developer mode state" }
    | .ok false =>
        some { status := 401, message := "Developer mode is not enabled" }
    | .ok true => authenticate
  else authenticate

end LocalAuth

end JetKvm
