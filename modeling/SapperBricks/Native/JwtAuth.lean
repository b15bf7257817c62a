import SapperBricks.Native.Json
import SapperBricks.Native.StdString

/-!
# The JWT authentication request hook

The functions of `jwt-auth-request-hook.cpp`: the parameters of the hook, and the three
functions it overrides of the token authentication hook of microservice-essentials.

Decoding and verifying a token is left to cpp-jwt, and finding a key to the providers of
the parameters. Both may depend on and change a state `σ` (a clock, a key cache), and
either may throw.
-/

namespace SapperBricks

/-! ## What the hook uses of cpp-jwt -/

/-- The category of a `std::error_code`. -/
inductive ErrorCategory where
  | algorithmErr
  | decodeErr
  | verificationErr
  | other (n : Nat)
deriving DecidableEq, Repr

/-- `std::error_code` with its message. -/
structure ErrorCode where
  value : Int
  category : ErrorCategory
  message : String
deriving DecidableEq, Repr

/-- The conversion of an error code to `bool`. -/
def ErrorCode.isSet (ec : ErrorCode) : Bool :=
  ec.value ≠ 0

/-- `jwt::jwt_object`, as far as the hook reads it. -/
structure JwtObject where
  payload : Json

/-- The arguments of `jwt::decode`. -/
structure DecodeArgs where
  encStr : String
  algorithms : List String
  secret : String
  issuer : String
  aud : String
  verify : Bool
deriving DecidableEq, Repr

/-- The functions of cpp-jwt the hook calls. -/
structure JwtLib (σ : Type) where
  /-- `jwt_header::decode` followed by `create_json_obj` -/
  decodeHeader : String → Except Exn (Json × ErrorCode)
  /-- `jwt::decode` -/
  decode : DecodeArgs → σ → Except Exn (JwtObject × ErrorCode) × σ

/-! ## Parameters -/

/-- `Parameters::KeyProvider`: given a key id, a key or the empty string. -/
abbrev KeyProvider (σ : Type) := String → σ → Except Exn String × σ

namespace JwtAuthRequestHook

/-- `JwtAuthRequestHook::Parameters`. -/
structure Parameters (σ : Type) where
  keyProvider : Std.ExtTreeMap String (KeyProvider σ) := ∅
  issuer : String := ""
  audience : String := ""
  requiredClaims : List String := []
  metadataKey : String := "authorization"
  tokenPrefix : String := "Bearer "

variable {σ : Type}

/-- `RS256Parameters`. -/
def rs256Parameters (publicKeyProvider : KeyProvider σ) (issuer audience : String)
    (requiredClaims : List String) : Parameters σ :=
  { keyProvider := (∅ : Std.ExtTreeMap String (KeyProvider σ)).insert "RS256" publicKeyProvider
    issuer, audience, requiredClaims }

/-- `HS256Parameters`. -/
def hs256Parameters (privateKey issuer audience : String) (requiredClaims : List String) :
    Parameters σ :=
  { keyProvider := (∅ : Std.ExtTreeMap String (KeyProvider σ)).insert "HS256"
      fun _ s => (.ok privateKey, s)
    issuer, audience, requiredClaims }

/-! ## Headers -/

/-- `JWTHeader`. -/
structure JWTHeader where
  alg : String
  typ : Option String
  kid : Option String
deriving DecidableEq, Repr

/-- `extract_header`. -/
def extractHeader (lib : JwtLib σ) (encTokenStr : String) : Except Exn (Option JWTHeader) :=
  match lib.decodeHeader (substrTo encTokenStr (findChar encTokenStr '.')) with
  | .error e => .error e
  | .ok (headerJson, headerEc) =>
    if headerEc.isSet then .ok none
    else
      match headerJson.stringAt? "alg" with
      | none => .ok none
      | some alg => .ok (some ⟨alg, headerJson.stringAt? "typ", headerJson.stringAt? "kid"⟩)

/-- `std::optional::value`. -/
def value {α : Type} : Option α → Except Exn α
  | some a => .ok a
  | none => .error .badOptionalAccess

/-- The condition under which a token is rejected for its type. The text is read only when
    there is none. -/
def invalidTokenType (header : JWTHeader) : Except Exn Bool :=
  if header.typ.isSome then .ok false
  else (value header.typ).map fun typ => typ ≠ "JWT"

end JwtAuthRequestHook

/-! ## The hook -/

/-- `TokenImpl`. -/
structure TokenImpl where
  key : String
  jwtObject : JwtObject
  ec : ErrorCode

/-- `JwtAuthRequestHook`. -/
structure JwtAuthRequestHook (σ : Type) where
  lib : JwtLib σ
  parameters : JwtAuthRequestHook.Parameters σ

namespace JwtAuthRequestHook

variable {σ : Type}

/-- `decode_token`. A result `.error details` is `false` with these decoding details, and
    `.ok` is `true` with no details and the decoded token. -/
def decodeToken (self : JwtAuthRequestHook σ) (token : String) (s : σ) :
    Except Exn (Except String TokenImpl) × σ :=
  let parameters := self.parameters
  if substrTo token (some parameters.tokenPrefix.length) ≠ parameters.tokenPrefix then
    (.ok (.error "invalid token prefix"), s)
  else
    let encStr := substr token parameters.tokenPrefix.length
    match extractHeader self.lib encStr with
    | .error e => (.error e, s)
    | .ok none => (.ok (.error "invalid token header"), s)
    | .ok (some header) =>
      match invalidTokenType header with
      | .error e => (.error e, s)
      | .ok true => (.ok (.error "invalid token type"), s)
      | .ok false =>
        match parameters.keyProvider[header.alg]? with
        | none => (.ok (.error "no key provider available"), s)
        | some keyProvider =>
          -- Without a string `kid` the provider is asked for the empty key id
          match keyProvider (header.kid.getD "") s with
          | (.error e, s) => (.error e, s)
          | (.ok key, s) =>
            if key = "" then (.ok (.error "key not found"), s)
            else
              match self.lib.decode
                { encStr
                  algorithms := [cStr header.alg]
                  secret := key
                  issuer := parameters.issuer
                  aud := parameters.audience
                  verify := true } s with
              | (.error e, s) => (.error e, s)
              | (.ok (jwtObject, ec), s) =>
                -- An error of the verification is left to `verify_token`
                if ec.isSet ∧ (ec.category = .algorithmErr ∨ ec.category = .decodeErr) then
                  (.ok (.error ec.message), s)
                else (.ok (.ok ⟨key, jwtObject, ec⟩), s)

/-- `std::any_cast<const TokenImpl&>`, of an `any` that may hold something else. -/
def anyCast : Option TokenImpl → Except Exn TokenImpl
  | some tokenImpl => .ok tokenImpl
  | none => .error .badAnyCast

/-- `verify_token`. A result `.error details` is `false` with these verification details. -/
def verifyToken (decodedToken : Option TokenImpl) : Except Exn (Except String Unit) :=
  (anyCast decodedToken).map fun tokenImpl =>
    if tokenImpl.ec.isSet then .error tokenImpl.ec.message else .ok ()

/-- `extract_claim`. -/
def extractClaim (json : NlohmannJson) (decodedToken : Option TokenImpl) (claim : String) :
    Except Exn (Option String) :=
  match anyCast decodedToken with
  | .error e => .error e
  | .ok token =>
    match token.jwtObject.payload.find? claim with
    | none => .ok none
    | some v => ((json.getString v).mapError .jsonException).map some

end JwtAuthRequestHook

end SapperBricks
