import SapperBricks.Native.OpenID

/-!
# A service with OpenID and JWT authentication

What the sections of the *security-openid* and *security-jwt-auth* bricks put together in `main`:
the configuration that is requested when the service starts, the key provider for its `jwks_uri`,
and the hook that asks this provider for keys.

Requests come in on any threads. The hook has no state of its own, so what threads see of each
other is the key cache: between the sections of a lookup, and between it and the check of the
token, others may refresh the keys.
-/

namespace SapperBricks

/-- The libraries, the REST endpoints as they answer, and the settings of the templates. `ω` is
    what cpp-jwt depends on, such as the times that it will read. -/
structure SecuredService (ω : Type) where
  json : NlohmannJson
  toPEMPubKey : RS256Key → Except Exn String
  jwt : JwtLib ω
  /-- what the request of the configuration ends with -/
  openid : Except Exn HttpResult
  /-- what the `n`-th request of an address ends with -/
  jwks : String → Nat → Except Exn HttpResult
  audience : String
  requiredClaims : List String

/-- What becomes of a token. -/
inductive Verdict where
  | threw (e : Exn)
  | rejected (details : String)
  | accepted (token : TokenImpl)

namespace SecuredService

open JwtAuthRequestHook RestJwksRSAKeyProvider

variable {ω : Type} (self : SecuredService ω)

/-- The key cache, and what cpp-jwt depends on. -/
abbrev State (ω : Type) := RestJwksRSAKeyProvider.State × ω

/-- `key_provider`. -/
def keyProvider (config : OpenID.Configuration) : RestJwksRSAKeyProvider :=
  .ofUri self.json self.toPEMPubKey (self.jwks config.jwksUri) true

/-- The copy of it that the hook asks for keys. -/
def lookupKey (config : OpenID.Configuration) : KeyProvider (State ω) := fun keyId s =>
  let r := (self.keyProvider config).lookupAlone keyId s.1
  (r.1, (r.2, s.2))

/-- The hook that is registered. -/
def hook (config : OpenID.Configuration) : JwtAuthRequestHook (State ω) where
  lib :=
    { decodeHeader := self.jwt.decodeHeader
      decode := fun args s =>
        let r := self.jwt.decode args s.2
        (r.1, (s.1, r.2)) }
  parameters := rs256Parameters (self.lookupKey config) config.issuer
    self.audience self.requiredClaims

/-- The initialization: the configuration and a filled key cache, or what is thrown. -/
def start : Except Exn (OpenID.Configuration × RestJwksRSAKeyProvider.State) := do
  let config ← OpenID.createFromUrl self.json self.openid
  let cache ← (self.keyProvider config).construct
  return (config, cache)

/-- `decode_token`, and `verify_token` for a token that is decoded. -/
def authenticate (config : OpenID.Configuration) (token : String) (s : State ω) :
    Verdict × State ω :=
  match (self.hook config).decodeToken token s with
  | (.error e, s) => (.threw e, s)
  | (.ok (.error details), s) => (.rejected details, s)
  | (.ok (.ok tokenImpl), s) =>
    match verifyToken (some tokenImpl) with
    | .error e => (.threw e, s)
    | .ok (.error details) => (.rejected details, s)
    | .ok (.ok ()) => (.accepted tokenImpl, s)

/-! ## The same on many threads -/

/-- `decode_token` up to the call of the provider: the rest of the token with its header, or what
    becomes of the token without it. -/
def readHeader (config : OpenID.Configuration) (token : String) : Verdict ⊕ (String × JWTHeader) :=
  let parameters := (self.hook config).parameters
  if substrTo token (some parameters.tokenPrefix.length) ≠ parameters.tokenPrefix then
    .inl (.rejected "invalid token prefix")
  else
    let encStr := substr token parameters.tokenPrefix.length
    match extractHeader self.jwt encStr with
    | .error e => .inl (.threw e)
    | .ok none => .inl (.rejected "invalid token header")
    | .ok (some header) =>
      match invalidTokenType header with
      | .error e => .inl (.threw e)
      | .ok true => .inl (.rejected "invalid token type")
      | .ok false =>
        if parameters.keyProvider.contains header.alg then .inr (encStr, header)
        else .inl (.rejected "no key provider available")

/-- `decode_token` with the key that the provider gave, and `verify_token`. -/
def checkToken (config : OpenID.Configuration) (encStr : String) (header : JWTHeader)
    (key : String) (w : ω) : Verdict × ω :=
  if key = "" then (.rejected "key not found", w)
  else
    match self.jwt.decode
      ⟨encStr, [cStr header.alg], key, config.issuer, self.audience, true⟩ w with
    | (.error e, w) => (.threw e, w)
    | (.ok (jwtObject, ec), w) =>
      if ec.isSet ∧ (ec.category = .algorithmErr ∨ ec.category = .decodeErr) then
        (.rejected ec.message, w)
      else
        match verifyToken (some ⟨key, jwtObject, ec⟩) with
        | .error e => (.threw e, w)
        | .ok (.error details) => (.rejected details, w)
        | .ok (.ok ()) => (.accepted ⟨key, jwtObject, ec⟩, w)

/-- Where a request is: before its header is read, in `operator()` of the provider, or before its
    token is checked with a key. -/
inductive AuthLoc where
  | read (token : String)
  | lookup (encStr : String) (header : JWTHeader) (l : LookupLoc)
  | check (encStr : String) (header : JWTHeader) (key : String)

/-- `authenticate` as its sections; between them other threads may run theirs. -/
def authentication (config : OpenID.Configuration) :
    Interleaving.Proc String AuthLoc (State ω) Verdict where
  start := .read
  exec
    | .read token, s =>
      match self.readHeader config token with
      | .inl verdict => (.inr verdict, s)
      | .inr (encStr, header) =>
        (.inl (.lookup encStr header
          ((self.keyProvider config).lookup.start (header.kid.getD ""))), s)
    | .lookup encStr header l, s =>
      match (self.keyProvider config).lookup.exec l s.1 with
      | (.inl l, cache) => (.inl (.lookup encStr header l), (cache, s.2))
      | (.inr (.error e), cache) => (.inr (.threw e), (cache, s.2))
      | (.inr (.ok key), cache) => (.inl (.check encStr header key), (cache, s.2))
    | .check encStr header key, s =>
      let r := self.checkToken config encStr header key s.2
      (.inr r.1, (s.1, r.2))

end SecuredService

end SapperBricks
