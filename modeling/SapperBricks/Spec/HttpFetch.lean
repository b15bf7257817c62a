import SapperBricks.Native.OpenID
import SapperBricks.Spec.KeyCache

/-!
# Fetching key sets and configurations over HTTP

A JWKS and an OpenID configuration are requested over HTTP. Which responses are taken for
data, whatever their status and body are.

## Key results

- `rejectedAsJwks_iff`: the responses that are not taken for a JWKS
- `createFromUrl_rejects_iff`: the responses that are not taken for a configuration
- `error_response_rejected_iff`: the responses both treat as the errors they are
-/

namespace SapperBricks

namespace HttpResult

/-- A response with a status of 2xx. -/
def IsSuccess : HttpResult → Prop
  | .failed _ => False
  | .response status _ => 200 ≤ status ∧ status < 300

/-- A response with another status than 2xx, which is not zero. -/
def IsErrorPage : HttpResult → Prop
  | .failed _ => False
  | .response status _ => status ≠ 0 ∧ ¬(200 ≤ status ∧ status < 300)

/-- The body of a response. -/
def body? : HttpResult → Option String
  | .failed _ => none
  | .response _ body => some body

end HttpResult

/-! ## Key sets -/

/-- A result of a request is reported as unavailable, and a refresh of a cache with it leaves
    the keys as they were. -/
structure RejectedAsJwks (result : HttpResult) : Prop where
  throws : ∃ details, requestJWKS (.ok result) = .error (.errorForwarding ⟨.unavailable, ""⟩ details)
  keeps : ∀ (provider : RestJwksRSAKeyProvider) (s : RestJwksRSAKeyProvider.State),
    provider.jwksProvider s.providerCalls = requestJWKS (.ok result) →
      (provider.updateKeyCache s).2.data = s.data

/-- A refresh that is thrown at leaves the keys as they were. -/
theorem updateKeyCache_of_error {provider : RestJwksRSAKeyProvider}
    {s : RestJwksRSAKeyProvider.State} {e : Exn}
    (h : provider.jwksProvider s.providerCalls = .error e) :
    (provider.updateKeyCache s).2.data = s.data := by
  obtain ⟨-, ⟨keys, ⟨jwks, ks, hjwks, -⟩, -⟩ | ⟨-, hdata, -⟩⟩ := provider.updateKeyCache_spec s
  · -- There is no response that could be usable
    rw [h] at hjwks
    exact nomatch hjwks
  · exact hdata

/-- A result is not taken for a JWKS exactly if there is no response or its status is zero. -/
theorem rejectedAsJwks_iff (result : HttpResult) :
    RejectedAsJwks result ↔ ∀ status body, result = .response status body → status = 0 := by
  have hkeeps : ∀ e, requestJWKS (.ok result) = .error e →
      ∀ (provider : RestJwksRSAKeyProvider) (s : RestJwksRSAKeyProvider.State),
        provider.jwksProvider s.providerCalls = requestJWKS (.ok result) →
          (provider.updateKeyCache s).2.data = s.data := by
    intro e he provider s h
    exact updateKeyCache_of_error (h.trans he)
  cases result with
  | failed error => exact iff_of_true ⟨⟨_, rfl⟩, hkeeps _ rfl⟩ nofun
  | response status body =>
    by_cases hstatus : status = 0
    · subst hstatus
      refine iff_of_true ⟨⟨_, rfl⟩, hkeeps _ rfl⟩ ?_
      intro status body h
      cases h
      rfl
    -- The body is returned, so nothing is thrown
    · refine iff_of_false ?_ fun h => hstatus (h status body rfl)
      intro h
      obtain ⟨details, hthrows⟩ := h.throws
      simp [requestJWKS, hstatus] at hthrows

/-! ## Configurations -/

/-- A result is not taken for a configuration exactly if there is no response, its status is
    zero, or no configuration can be made from its body. -/
theorem createFromUrl_rejects_iff (lib : NlohmannJson) (result : HttpResult) :
    (∃ e, OpenID.createFromUrl lib (.ok result) = .error e) ↔
      ∀ status body, result = .response status body → status ≠ 0 →
        ∃ e, OpenID.createFromJson lib body = .error e := by
  cases result with
  | failed error => exact iff_of_true ⟨_, rfl⟩ nofun
  | response status body =>
    by_cases hstatus : status = 0
    · subst hstatus
      refine iff_of_true ⟨_, rfl⟩ ?_
      intro status body h hne
      cases h
      exact absurd rfl hne
    -- With any other status it is the body that decides
    · have heq : OpenID.createFromUrl lib (.ok (.response status body)) =
          OpenID.createFromJson lib body := by
        simp only [OpenID.createFromUrl, hstatus, if_false]
      rw [heq]
      constructor
      · intro h status' body' h' _
        cases h'
        exact h
      · intro h
        exact h status body rfl hstatus

/-! ## Errors -/

/-- **Which errors are rejected.** A result that is no response, or one outside 2xx, is
    rejected as a JWKS and as a configuration exactly if it is not an error page: a response
    with a status that is neither zero nor 2xx. As a configuration alone it is also rejected
    if none can be made from its body. -/
theorem error_response_rejected_iff (lib : NlohmannJson) (result : HttpResult) :
    ((¬result.IsSuccess → RejectedAsJwks result ∧
        ∃ e, OpenID.createFromUrl lib (.ok result) = .error e) ↔ ¬result.IsErrorPage) ∧
    ((¬result.IsSuccess → ∃ e, OpenID.createFromUrl lib (.ok result) = .error e) ↔
      ¬result.IsErrorPage ∨ ∀ body, result.body? = some body →
        ∃ e, OpenID.createFromJson lib body = .error e) := by
  rw [rejectedAsJwks_iff, createFromUrl_rejects_iff]
  cases result with
  | failed error => simp [HttpResult.IsSuccess, HttpResult.IsErrorPage]
  | response status body =>
    by_cases hzero : status = 0
    · simp [HttpResult.IsErrorPage, hzero]
    · by_cases hsuccess : 200 ≤ status ∧ status < 300
      · simp [HttpResult.IsSuccess, HttpResult.IsErrorPage, hsuccess]
      · simp [HttpResult.IsSuccess, HttpResult.IsErrorPage, HttpResult.body?, hzero, hsuccess]

/-- A configuration with the required fields. -/
def testConfiguration : String :=
  "\x7b\"issuer\":\"https://dev-abcdef.us.auth0.com/\"," ++
    "\"authorization_endpoint\":\"https://dev-abcdef.us.auth0.com/authorize\"," ++
    "\"jwks_uri\":\"https://dev-abcdef.us.auth0.com/.well-known/jwks.json\"," ++
    "\"response_types_supported\":[\"code\"],\"subject_types_supported\":[\"public\"]," ++
    "\"id_token_signing_alg_values_supported\":[\"RS256\"]\x7d"

/-- Its document. -/
def testConfigurationJson : Json :=
  .object [
    ("authorization_endpoint", .string "https://dev-abcdef.us.auth0.com/authorize"),
    ("id_token_signing_alg_values_supported", .array [.string "RS256"]),
    ("issuer", .string "https://dev-abcdef.us.auth0.com/"),
    ("jwks_uri", .string "https://dev-abcdef.us.auth0.com/.well-known/jwks.json"),
    ("response_types_supported", .array [.string "code"]),
    ("subject_types_supported", .array [.string "public"])]

/-- The JSON library on its text. -/
def configurationJson : NlohmannJson where
  __ := RestJwksRSAKeyProvider.testJson
  parse text :=
    if text = testConfiguration then .ok testConfigurationJson
    else .error "[json.exception.parse_error.101] parse error"

/-- The body of a page with the status 404 is taken for the keys of a cache, and for a
    configuration. -/
theorem error_page_taken :
    ¬(HttpResult.response 404 RestJwksRSAKeyProvider.testJwks).IsSuccess ∧
    (RestJwksRSAKeyProvider.ofUri RestJwksRSAKeyProvider.testJson
      RestJwksRSAKeyProvider.testProvider.toPEMPubKey
      (fun _ => .ok (.response 404 RestJwksRSAKeyProvider.testJwks)) true).construct =
        .ok RestJwksRSAKeyProvider.testState ∧
    ∃ configuration, OpenID.createFromUrl configurationJson
      (.ok (.response 404 testConfiguration)) = .ok configuration := by
  refine ⟨fun h => absurd h.2 (by decide), rfl, ?_⟩
  have hparse : configurationJson.parse testConfiguration = .ok testConfigurationJson := by
    simp only [configurationJson, if_true]
  have hurl : OpenID.createFromUrl configurationJson (.ok (.response 404 testConfiguration)) =
      OpenID.createFromJson configurationJson testConfiguration := rfl
  rw [hurl, OpenID.createFromJson, hparse]
  exact ⟨_, rfl⟩

end SapperBricks
