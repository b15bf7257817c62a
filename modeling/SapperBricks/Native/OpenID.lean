import SapperBricks.Native.JwtAuth
import SapperBricks.Native.KeyProvider

/-!
# OpenID configurations

`openid-configuration.cpp`: the configuration of an OpenID provider, made from a JSON text or
from what a REST endpoint answers.
-/

namespace SapperBricks.OpenID

open JwtAuthRequestHook (value)

/-- `Configuration`. -/
structure Configuration where
  issuer : String
  authorizationEndpoint : String
  tokenEndpoint : Option String
  userinfoEndpoint : Option String
  jwksUri : String
  registrationEndpoint : Option String
  scopesSupported : Option (List String)
  responseTypesSupported : List String
  responseModesSupported : Option (List String)
  grantTypesSupported : Option (List String)
  acrValuesSupported : Option (List String)
  subjectTypesSupported : List String
  idTokenSigningAlgValuesSupported : List String
  idTokenEncryptionAlgValuesSupported : Option (List String)
  idTokenEncryptionEncValuesSupported : Option (List String)
  userinfoSigningAlgValuesSupported : Option (List String)
  userinfoEncryptionAlgValuesSupported : Option (List String)
  userinfoEncryptionEncValuesSupported : Option (List String)
  requestObjectSigningAlgValuesSupported : Option (List String)
  requestObjectEncryptionAlgValuesSupported : Option (List String)
  requestObjectEncryptionEncValuesSupported : Option (List String)
  tokenEndpointAuthMethodsSupported : Option (List String)
  tokenEndpointAuthSigningAlgValuesSupported : Option (List String)
  displayValuesSupported : Option (List String)
  claimTypesSupported : Option (List String)
  claimsSupported : Option (List String)
  serviceDocumentation : Option String
  claimsLocalesSupported : Option (List String)
  uiLocalesSupported : Option (List String)
  claimsParameterSupported : Option Bool
  requestParameterSupported : Option Bool
  requestUriParameterSupported : Option Bool
  requireRequestUriRegistration : Option Bool
  opPolicyUri : Option String
  opTosUri : Option String
deriving Repr

/-- `extractString`. -/
def extractString (json : Json) (jsonKey : String) : Option String :=
  json.stringAt? jsonKey

/-- `extractBool`. -/
def extractBool (json : Json) (jsonKey : String) : Option Bool :=
  match json.find? jsonKey with
  | some (.boolean b) => some b
  | _ => none

/-- `extractStrings`: the elements that are strings, if the member is an array. -/
def extractStrings (json : Json) (jsonKey : String) : Option (List String) :=
  match json.find? jsonKey with
  | some (.array elements) => some (elements.filterMap Json.string?)
  | _ => none

/-- `CreateFromJson`. -/
def createFromJson (lib : NlohmannJson) (openidConfigJson : String) :
    Except Exn Configuration := do
  let json ← (lib.parse openidConfigJson).mapError .jsonException
  -- The required members: `value()` of a missing one throws
  let issuer ← value (extractString json "issuer")
  let authorizationEndpoint ← value (extractString json "authorization_endpoint")
  let jwksUri ← value (extractString json "jwks_uri")
  let responseTypesSupported ← value (extractStrings json "response_types_supported")
  let subjectTypesSupported ← value (extractStrings json "subject_types_supported")
  let idTokenSigningAlgValuesSupported ←
    value (extractStrings json "id_token_signing_alg_values_supported")
  return {
    issuer
    authorizationEndpoint
    tokenEndpoint := extractString json "token_endpoint"
    userinfoEndpoint := extractString json "userinfo_endpoint"
    jwksUri
    registrationEndpoint := extractString json "registration_endpoint"
    scopesSupported := extractStrings json "scopes_supported"
    responseTypesSupported
    responseModesSupported := extractStrings json "response_modes_supported"
    grantTypesSupported := extractStrings json "grant_types_supported"
    acrValuesSupported := extractStrings json "acr_values_supported"
    subjectTypesSupported
    idTokenSigningAlgValuesSupported
    idTokenEncryptionAlgValuesSupported :=
      extractStrings json "id_token_encryption_alg_values_supported"
    idTokenEncryptionEncValuesSupported :=
      extractStrings json "id_token_encryption_enc_values_supported"
    userinfoSigningAlgValuesSupported :=
      extractStrings json "userinfo_signing_alg_values_supported"
    userinfoEncryptionAlgValuesSupported :=
      extractStrings json "userinfo_encryption_alg_values_supported"
    userinfoEncryptionEncValuesSupported :=
      extractStrings json "userinfo_encryption_enc_values_supported"
    requestObjectSigningAlgValuesSupported :=
      extractStrings json "request_object_signing_alg_values_supported"
    requestObjectEncryptionAlgValuesSupported :=
      extractStrings json "request_object_encryption_alg_values_supported"
    requestObjectEncryptionEncValuesSupported :=
      extractStrings json "request_object_encryption_enc_values_supported"
    tokenEndpointAuthMethodsSupported :=
      extractStrings json "token_endpoint_auth_methods_supported"
    tokenEndpointAuthSigningAlgValuesSupported :=
      extractStrings json "token_endpoint_auth_signing_alg_values_supported"
    displayValuesSupported := extractStrings json "display_values_supported"
    claimTypesSupported := extractStrings json "claim_types_supported"
    claimsSupported := extractStrings json "claims_supported"
    serviceDocumentation := extractString json "service_documentation"
    claimsLocalesSupported := extractStrings json "claims_locales_supported"
    uiLocalesSupported := extractStrings json "ui_locales_supported"
    claimsParameterSupported := extractBool json "claims_parameter_supported"
    requestParameterSupported := extractBool json "request_parameter_supported"
    requestUriParameterSupported := extractBool json "request_uri_parameter_supported"
    requireRequestUriRegistration := extractBool json "require_request_uri_registration"
    opPolicyUri := extractString json "op_policy_uri"
    opTosUri := extractString json "op_tos_uri" }

/-- `CreateFromUrl`, from what `ToUrl`, the client and `Get` throw or return. -/
def createFromUrl (lib : NlohmannJson) : Except Exn HttpResult → Except Exn Configuration
  | .error e => .error e
  | .ok (.failed error) =>
    .error (.runtimeError ("requesting openid configuration resulted in error: " ++ error))
  | .ok (.response status body) =>
    if status = 0 then
      .error (.runtimeError
        ("receiving openid configuration returned with status " ++ toString status))
    else createFromJson lib body

end SapperBricks.OpenID
