import LiveChat.Foundation.Text
import LiveChat.Api.Projects
import LiveChat.Db.RedisClient

/-!
# Minting and rotating ephemeral tokens

`api/tokens.py`.  A `TokenCall` is a request with the command it awaits; `Access` is what
`_require_secret_key` returned to it.
-/

set_option autoImplicit false

namespace LiveChat.Api.Tokens

open LiveChat.Core
open LiveChat.Db
open LiveChat.Foundation
open LiveChat.Api.Projects (HTTPException)

/-! ## Requests and responses -/

structure CreateTokenRequest where
  ttlSeconds : Nat := EPHEMERAL_TOKEN_DEFAULT_TTL
  metadata : List (String × String) := []
  ttlRange : 1 ≤ ttlSeconds ∧ ttlSeconds ≤ EPHEMERAL_TOKEN_MAX_TTL := by decide

structure RotateTokenRequest where
  currentToken : String
  ttlSeconds : Nat := EPHEMERAL_TOKEN_DEFAULT_TTL
  currentTokenLength : 1 ≤ currentToken.length
  ttlRange : 1 ≤ ttlSeconds ∧ ttlSeconds ≤ EPHEMERAL_TOKEN_MAX_TTL := by decide

inductive TokenRequest where
  | create (body : CreateTokenRequest)
  | rotate (body : RotateTokenRequest)

def TokenRequest.ttlSeconds : TokenRequest → Nat
  | .create body => body.ttlSeconds
  | .rotate body => body.ttlSeconds

structure TokenResponse where
  ephemeralToken : String
  expiresAt : Nat
  ttlSeconds : Nat
  projectId : String
  deriving DecidableEq, Repr

/-! ## Exceptions -/

def authorizationMissing : HTTPException :=
  { statusCode := 401, detail := "Authorization header required (Bearer sk_live_...)." }

def keyMissing : HTTPException :=
  { statusCode := 401, detail := "API key missing from Authorization header." }

def keyInvalid : HTTPException :=
  { statusCode := 401, detail := "Invalid or revoked API key." }

def keyNotSecret : HTTPException :=
  { statusCode := 403
    detail := "Ephemeral tokens can only be minted with a secret key " ++
      "(sk_live_...).  Publishable keys are for browser clients only." }

def projectNotFound : HTTPException :=
  { statusCode := 404, detail := "Project not found or inactive." }

def metadataTooLarge : HTTPException :=
  { statusCode := 422, detail := "metadata may contain at most 10 keys." }

def tokenNotFound : HTTPException :=
  { statusCode := 404
    detail := "Current token not found — it may have already been redeemed " ++
      "or expired.  Mint a new token with POST /v1/tokens." }

def payloadMissing : HTTPException :=
  { statusCode := 404, detail := "Current token payload is missing — mint a new token." }

def otherProject : HTTPException :=
  { statusCode := 403, detail := "Cannot rotate a token that belongs to a different project." }

def redeemedBetween : HTTPException :=
  { statusCode := 409
    detail := "Token was redeemed between rotation check and deletion " ++
      "(race condition).  The browser may have already connected." }

/-! ## `_require_secret_key` -/

def bearerKey (header : Option String) : Except HTTPException String :=
  match Text.afterPrefix "Bearer " (header.getD "") with
  | none => .error authorizationMissing
  | some rest =>
      let rawKey := Text.strip rest
      if rawKey = "" then .error keyMissing else .ok rawKey

/-- The checks on the document that `get_by_raw_key` returned. -/
def requireSecret (found : Option APIKeyDoc) : Except HTTPException APIKeyDoc :=
  match found with
  | none => .error keyInvalid
  | some doc => if doc.keyType = .secret then .ok doc else .error keyNotSecret

theorem requireSecret_ok {found : Option APIKeyDoc} {key : APIKeyDoc}
    (checked : requireSecret found = .ok key) : found = some key ∧ key.keyType = .secret := by
  unfold requireSecret at checked
  split at checked
  · cases checked
  · split at checked
    · rename_i secret
      cases checked
      exact ⟨rfl, secret⟩
    · cases checked

/-- `(key_doc, project_config)`. -/
structure Access where
  key : APIKeyDoc
  config : ProjectConfig
  deriving DecidableEq

/-! ## Calls in flight -/

inductive TokenPhase where
  /-- `get_by_raw_key`: the `find`, whose cursor is read to the key. -/
  | lookingUp (rawKey : String)
  /-- `get_by_raw_key`: `_touch_last_used` of the key that it returns. -/
  | touching (key : APIKeyDoc)
  /-- `get_config_for_key`: a `ReadCall` of the project store. -/
  | configuring (key : APIKeyDoc) (read : Nat)
  /-- `TTL` of the token to rotate. -/
  | timing (access : Access) (currentToken : String)
  /-- `GET` of the token to rotate. -/
  | peeking (access : Access) (currentToken : String) (oldTtl : Int)
  /-- The scripted `GET` and `DEL` of the token to rotate. -/
  | consuming (access : Access) (currentToken : String) (oldTtl : Int) (oldPayload : TokenPayload)
  /-- `SET` of the new token; `consumed` is the token that was rotated, with its time. -/
  | storing (access : Access) (payload : TokenPayload) (consumed : Option (String × Int))
  | answered (response : TokenResponse) (previousRemainingTtl : Option Int)
  | failed (refusal : HTTPException)
  /-- `get_by_raw_key` raised. -/
  | raised
  deriving DecidableEq

structure TokenCall where
  request : TokenRequest
  phase : TokenPhase

/-- The payload of the new token. -/
def Access.payload (access : Access) (now : Instant) (ttlSeconds : Nat)
    (metadata : List (String × String)) : TokenPayload :=
  Redis.newPayload now access.config.projectId access.config.tenantId access.key.id
    access.key.rateLimitRpm ttlSeconds metadata

/-- The handlers from the return of `_require_secret_key` to their first command. -/
def TokenRequest.begin (request : TokenRequest) (access : Access) (now : Instant) : TokenPhase :=
  match request with
  | .create body =>
      if body.metadata.length > 10 then .failed metadataTooLarge
      else .storing access (access.payload now body.ttlSeconds body.metadata) none
  | .rotate body => .timing access body.currentToken

def meetTtl (access : Access) (currentToken : String) (oldTtl : Int) : TokenPhase :=
  if oldTtl < 0 then .failed tokenNotFound else .peeking access currentToken oldTtl

def meetPayload (access : Access) (currentToken : String) (oldTtl : Int)
    (oldPayload : Option TokenPayload) : TokenPhase :=
  match oldPayload with
  | none => .failed payloadMissing
  | some oldPayload =>
      if oldPayload.projectId = access.config.projectId then
        .consuming access currentToken oldTtl oldPayload
      else .failed otherProject

/-- After `redeem_ephemeral_token`; the metadata are those of the earlier read. -/
def meetConsumed (access : Access) (currentToken : String) (oldTtl : Int)
    (oldPayload : TokenPayload) (ttlSeconds : Nat) (now : Instant)
    (consumed : Option TokenPayload) : TokenPhase :=
  match consumed with
  | none => .failed redeemedBetween
  | some _ =>
      .storing access (access.payload now ttlSeconds oldPayload.metadata)
        (some (currentToken, oldTtl))

def respond (rawToken : String) (payload : TokenPayload) (ttlSeconds : Nat) : TokenResponse :=
  { ephemeralToken := rawToken
    expiresAt := payload.expiresAt
    ttlSeconds := ttlSeconds
    projectId := payload.projectId }

end LiveChat.Api.Tokens
