import Mathlib.Data.List.Nodup
import SapperBricks.Spec.HttpFetch

/-!
# The fields of an OpenID configuration

`CreateFromJson` fills in each of the fields of a configuration from the member of its name.
This file lists the fields, with the kind of their values and whether they are required, and
proves that a text has no other influence on a configuration than through these members.

## Key results

- `createFromJson_missing`, `createFromJson_fields`: a required member is missing, or none is
- `createFromJson_outcomes`: what becomes of a text, and which members have an influence
-/

namespace SapperBricks.OpenID

open JwtAuthRequestHook (value)

/-! ## Fields -/

/-- The kinds of values of the fields. -/
inductive FieldKind where
  | string
  | bool
  | strings
deriving DecidableEq, Repr

/-- The values of a kind. -/
abbrev FieldKind.Value : FieldKind → Type
  | .string => String
  | .bool => Bool
  | .strings => List String

/-- What a member is for a field: nothing if it is missing or of another type. -/
def FieldKind.project : (kind : FieldKind) → Option Json → Option kind.Value
  | .string, some (.string s) => some s
  | .bool, some (.boolean b) => some b
  | .strings, some (.array elements) => some (elements.filterMap Json.string?)
  | _, _ => none

/-- The fields of a configuration. -/
inductive Field where
  | issuer
  | authorizationEndpoint
  | tokenEndpoint
  | userinfoEndpoint
  | jwksUri
  | registrationEndpoint
  | scopesSupported
  | responseTypesSupported
  | responseModesSupported
  | grantTypesSupported
  | acrValuesSupported
  | subjectTypesSupported
  | idTokenSigningAlgValuesSupported
  | idTokenEncryptionAlgValuesSupported
  | idTokenEncryptionEncValuesSupported
  | userinfoSigningAlgValuesSupported
  | userinfoEncryptionAlgValuesSupported
  | userinfoEncryptionEncValuesSupported
  | requestObjectSigningAlgValuesSupported
  | requestObjectEncryptionAlgValuesSupported
  | requestObjectEncryptionEncValuesSupported
  | tokenEndpointAuthMethodsSupported
  | tokenEndpointAuthSigningAlgValuesSupported
  | displayValuesSupported
  | claimTypesSupported
  | claimsSupported
  | serviceDocumentation
  | claimsLocalesSupported
  | uiLocalesSupported
  | claimsParameterSupported
  | requestParameterSupported
  | requestUriParameterSupported
  | requireRequestUriRegistration
  | opPolicyUri
  | opTosUri
deriving DecidableEq, Repr

namespace Field

/-- The name of a field. -/
def name : Field → String
  | issuer => "issuer"
  | authorizationEndpoint => "authorization_endpoint"
  | tokenEndpoint => "token_endpoint"
  | userinfoEndpoint => "userinfo_endpoint"
  | jwksUri => "jwks_uri"
  | registrationEndpoint => "registration_endpoint"
  | scopesSupported => "scopes_supported"
  | responseTypesSupported => "response_types_supported"
  | responseModesSupported => "response_modes_supported"
  | grantTypesSupported => "grant_types_supported"
  | acrValuesSupported => "acr_values_supported"
  | subjectTypesSupported => "subject_types_supported"
  | idTokenSigningAlgValuesSupported => "id_token_signing_alg_values_supported"
  | idTokenEncryptionAlgValuesSupported => "id_token_encryption_alg_values_supported"
  | idTokenEncryptionEncValuesSupported => "id_token_encryption_enc_values_supported"
  | userinfoSigningAlgValuesSupported => "userinfo_signing_alg_values_supported"
  | userinfoEncryptionAlgValuesSupported => "userinfo_encryption_alg_values_supported"
  | userinfoEncryptionEncValuesSupported => "userinfo_encryption_enc_values_supported"
  | requestObjectSigningAlgValuesSupported => "request_object_signing_alg_values_supported"
  | requestObjectEncryptionAlgValuesSupported => "request_object_encryption_alg_values_supported"
  | requestObjectEncryptionEncValuesSupported => "request_object_encryption_enc_values_supported"
  | tokenEndpointAuthMethodsSupported => "token_endpoint_auth_methods_supported"
  | tokenEndpointAuthSigningAlgValuesSupported => "token_endpoint_auth_signing_alg_values_supported"
  | displayValuesSupported => "display_values_supported"
  | claimTypesSupported => "claim_types_supported"
  | claimsSupported => "claims_supported"
  | serviceDocumentation => "service_documentation"
  | claimsLocalesSupported => "claims_locales_supported"
  | uiLocalesSupported => "ui_locales_supported"
  | claimsParameterSupported => "claims_parameter_supported"
  | requestParameterSupported => "request_parameter_supported"
  | requestUriParameterSupported => "request_uri_parameter_supported"
  | requireRequestUriRegistration => "require_request_uri_registration"
  | opPolicyUri => "op_policy_uri"
  | opTosUri => "op_tos_uri"

/-- The kind of its values. -/
def kind : Field → FieldKind
  | issuer | authorizationEndpoint | tokenEndpoint | userinfoEndpoint | jwksUri
  | registrationEndpoint | serviceDocumentation | opPolicyUri | opTosUri => .string
  | claimsParameterSupported | requestParameterSupported | requestUriParameterSupported
  | requireRequestUriRegistration => .bool
  | _ => .strings

/-- Whether a configuration must have it. -/
def required : Field → Bool
  | issuer | authorizationEndpoint | jwksUri | responseTypesSupported | subjectTypesSupported
  | idTokenSigningAlgValuesSupported => true
  | _ => false

/-- What the member of its name in a document is for it. -/
def of (f : Field) (json : Json) : Option f.kind.Value :=
  f.kind.project (json.find? f.name)

/-- All of them. -/
def all : List Field := [
  issuer, authorizationEndpoint, tokenEndpoint, userinfoEndpoint, jwksUri, registrationEndpoint,
  scopesSupported, responseTypesSupported, responseModesSupported, grantTypesSupported,
  acrValuesSupported, subjectTypesSupported, idTokenSigningAlgValuesSupported,
  idTokenEncryptionAlgValuesSupported, idTokenEncryptionEncValuesSupported,
  userinfoSigningAlgValuesSupported, userinfoEncryptionAlgValuesSupported,
  userinfoEncryptionEncValuesSupported, requestObjectSigningAlgValuesSupported,
  requestObjectEncryptionAlgValuesSupported, requestObjectEncryptionEncValuesSupported,
  tokenEndpointAuthMethodsSupported, tokenEndpointAuthSigningAlgValuesSupported,
  displayValuesSupported, claimTypesSupported, claimsSupported, serviceDocumentation,
  claimsLocalesSupported, uiLocalesSupported, claimsParameterSupported,
  requestParameterSupported, requestUriParameterSupported, requireRequestUriRegistration,
  opPolicyUri, opTosUri]

theorem mem_all (f : Field) : f ∈ all := by
  cases f <;> decide

/-- No two fields have the same name. -/
theorem name_injective : Function.Injective name := by
  -- Among the 35 names there is none twice, and all fields are among them
  have hnodup : (all.map name).Nodup := by decide
  intro f g h
  exact List.inj_on_of_nodup_map hnodup (mem_all f) (mem_all g) h

end Field

/-- The value of a field. -/
def Configuration.get (c : Configuration) : (f : Field) → Option f.kind.Value
  | .issuer => some c.issuer
  | .authorizationEndpoint => some c.authorizationEndpoint
  | .tokenEndpoint => c.tokenEndpoint
  | .userinfoEndpoint => c.userinfoEndpoint
  | .jwksUri => some c.jwksUri
  | .registrationEndpoint => c.registrationEndpoint
  | .scopesSupported => c.scopesSupported
  | .responseTypesSupported => some c.responseTypesSupported
  | .responseModesSupported => c.responseModesSupported
  | .grantTypesSupported => c.grantTypesSupported
  | .acrValuesSupported => c.acrValuesSupported
  | .subjectTypesSupported => some c.subjectTypesSupported
  | .idTokenSigningAlgValuesSupported => some c.idTokenSigningAlgValuesSupported
  | .idTokenEncryptionAlgValuesSupported => c.idTokenEncryptionAlgValuesSupported
  | .idTokenEncryptionEncValuesSupported => c.idTokenEncryptionEncValuesSupported
  | .userinfoSigningAlgValuesSupported => c.userinfoSigningAlgValuesSupported
  | .userinfoEncryptionAlgValuesSupported => c.userinfoEncryptionAlgValuesSupported
  | .userinfoEncryptionEncValuesSupported => c.userinfoEncryptionEncValuesSupported
  | .requestObjectSigningAlgValuesSupported => c.requestObjectSigningAlgValuesSupported
  | .requestObjectEncryptionAlgValuesSupported => c.requestObjectEncryptionAlgValuesSupported
  | .requestObjectEncryptionEncValuesSupported => c.requestObjectEncryptionEncValuesSupported
  | .tokenEndpointAuthMethodsSupported => c.tokenEndpointAuthMethodsSupported
  | .tokenEndpointAuthSigningAlgValuesSupported => c.tokenEndpointAuthSigningAlgValuesSupported
  | .displayValuesSupported => c.displayValuesSupported
  | .claimTypesSupported => c.claimTypesSupported
  | .claimsSupported => c.claimsSupported
  | .serviceDocumentation => c.serviceDocumentation
  | .claimsLocalesSupported => c.claimsLocalesSupported
  | .uiLocalesSupported => c.uiLocalesSupported
  | .claimsParameterSupported => c.claimsParameterSupported
  | .requestParameterSupported => c.requestParameterSupported
  | .requestUriParameterSupported => c.requestUriParameterSupported
  | .requireRequestUriRegistration => c.requireRequestUriRegistration
  | .opPolicyUri => c.opPolicyUri
  | .opTosUri => c.opTosUri

/-- A configuration is given by the values of its fields. -/
theorem Configuration.get_injective {c c' : Configuration} (h : ∀ f, c.get f = c'.get f) :
    c = c' := by
  cases c
  cases c'
  simp only [Configuration.mk.injEq]
  exact ⟨Option.some.inj (h .issuer), Option.some.inj (h .authorizationEndpoint), h .tokenEndpoint,
    h .userinfoEndpoint, Option.some.inj (h .jwksUri), h .registrationEndpoint,
    h .scopesSupported, Option.some.inj (h .responseTypesSupported), h .responseModesSupported,
    h .grantTypesSupported, h .acrValuesSupported, Option.some.inj (h .subjectTypesSupported),
    Option.some.inj (h .idTokenSigningAlgValuesSupported),
    h .idTokenEncryptionAlgValuesSupported, h .idTokenEncryptionEncValuesSupported,
    h .userinfoSigningAlgValuesSupported, h .userinfoEncryptionAlgValuesSupported,
    h .userinfoEncryptionEncValuesSupported, h .requestObjectSigningAlgValuesSupported,
    h .requestObjectEncryptionAlgValuesSupported, h .requestObjectEncryptionEncValuesSupported,
    h .tokenEndpointAuthMethodsSupported, h .tokenEndpointAuthSigningAlgValuesSupported,
    h .displayValuesSupported, h .claimTypesSupported, h .claimsSupported,
    h .serviceDocumentation, h .claimsLocalesSupported, h .uiLocalesSupported,
    h .claimsParameterSupported, h .requestParameterSupported, h .requestUriParameterSupported,
    h .requireRequestUriRegistration, h .opPolicyUri, h .opTosUri⟩

/-! ## Texts -/

section Texts

variable {lib : NlohmannJson} {text : String} {json : Json}

/-- What the source extracts from a member is what the member is for a field. -/
theorem extractString_eq (key : String) :
    extractString json key = FieldKind.string.project (json.find? key) := by
  unfold extractString Json.stringAt?
  cases json.find? key with
  | none => rfl
  | some v => cases v <;> rfl

theorem extractBool_eq (key : String) :
    extractBool json key = FieldKind.bool.project (json.find? key) := by
  unfold extractBool
  cases json.find? key with
  | none => rfl
  | some v => cases v <;> rfl

theorem extractStrings_eq (key : String) :
    extractStrings json key = FieldKind.strings.project (json.find? key) := by
  unfold extractStrings
  cases json.find? key with
  | none => rfl
  | some v => cases v <;> rfl

/-- A member for each of the required fields makes a configuration of a document, each of
    whose fields has what the member of its name is for it. -/
theorem createFromJson_fields (hparse : lib.parse text = .ok json)
    (h : ∀ f : Field, f.required = true → ∃ v, f.of json = some v) :
    ∃ c, createFromJson lib text = .ok c ∧ ∀ f, c.get f = f.of json := by
  -- The required ones are there, so `value()` throws for none of them
  obtain ⟨issuer, hissuer⟩ : ∃ v, extractString json "issuer" = some v :=
    (h .issuer rfl).imp fun _ => (extractString_eq _).trans
  obtain ⟨endpoint, hendpoint⟩ : ∃ v, extractString json "authorization_endpoint" = some v :=
    (h .authorizationEndpoint rfl).imp fun _ => (extractString_eq _).trans
  obtain ⟨uri, huri⟩ : ∃ v, extractString json "jwks_uri" = some v :=
    (h .jwksUri rfl).imp fun _ => (extractString_eq _).trans
  obtain ⟨responses, hresponses⟩ : ∃ v, extractStrings json "response_types_supported" = some v :=
    (h .responseTypesSupported rfl).imp fun _ => (extractStrings_eq _).trans
  obtain ⟨subjects, hsubjects⟩ : ∃ v, extractStrings json "subject_types_supported" = some v :=
    (h .subjectTypesSupported rfl).imp fun _ => (extractStrings_eq _).trans
  obtain ⟨algs, halgs⟩ :
      ∃ v, extractStrings json "id_token_signing_alg_values_supported" = some v :=
    (h .idTokenSigningAlgValuesSupported rfl).imp fun _ => (extractStrings_eq _).trans
  simp only [createFromJson, hparse, Except.mapError, bind, Except.bind, pure, Except.pure,
    hissuer, hendpoint, huri, hresponses, hsubjects, halgs, value]
  refine ⟨_, rfl, ?_⟩
  intro f
  cases f with
  -- Field by field, what the source extracts is what the member is for it
  | issuer => exact hissuer.symm.trans (extractString_eq _)
  | authorizationEndpoint => exact hendpoint.symm.trans (extractString_eq _)
  | jwksUri => exact huri.symm.trans (extractString_eq _)
  | responseTypesSupported => exact hresponses.symm.trans (extractStrings_eq _)
  | subjectTypesSupported => exact hsubjects.symm.trans (extractStrings_eq _)
  | idTokenSigningAlgValuesSupported => exact halgs.symm.trans (extractStrings_eq _)
  | _ => first
    | exact extractString_eq _
    | exact extractStrings_eq _
    | exact extractBool_eq _

/-- Without one of them there is no configuration. -/
theorem createFromJson_missing (hparse : lib.parse text = .ok json) {f : Field}
    (hrequired : f.required = true) (hnone : f.of json = none) :
    createFromJson lib text = .error .badOptionalAccess := by
  simp only [createFromJson, hparse, Except.mapError, bind, Except.bind]
  -- The first member that is missing ends it
  rcases hissuer : extractString json "issuer" with _ | issuer
  · rfl
  rcases hendpoint : extractString json "authorization_endpoint" with _ | endpoint
  · rfl
  rcases huri : extractString json "jwks_uri" with _ | uri
  · rfl
  rcases hresponses : extractStrings json "response_types_supported" with _ | responses
  · rfl
  rcases hsubjects : extractStrings json "subject_types_supported" with _ | subjects
  · rfl
  rcases halgs : extractStrings json "id_token_signing_alg_values_supported" with _ | algs
  · rfl
  -- None of them is missing
  exfalso
  cases f with
  | issuer => cases hissuer.symm.trans ((extractString_eq _).trans hnone)
  | authorizationEndpoint => cases hendpoint.symm.trans ((extractString_eq _).trans hnone)
  | jwksUri => cases huri.symm.trans ((extractString_eq _).trans hnone)
  | responseTypesSupported => cases hresponses.symm.trans ((extractStrings_eq _).trans hnone)
  | subjectTypesSupported => cases hsubjects.symm.trans ((extractStrings_eq _).trans hnone)
  | idTokenSigningAlgValuesSupported => cases halgs.symm.trans ((extractStrings_eq _).trans hnone)
  | _ => exact Bool.false_ne_true hrequired

/-- A field depends on the member of its name alone. -/
theorem Field.of_congr {f : Field} {json json' : Json}
    (h : json.find? f.name = json'.find? f.name) : f.of json = f.of json' := by
  unfold Field.of
  rw [h]

/-- A document has a member for each of the required fields, or one is missing. -/
theorem required_cases (json : Json) :
    (∀ f : Field, f.required = true → ∃ v, f.of json = some v) ∨
    ∃ f : Field, f.required = true ∧ f.of json = none := by
  by_cases h : ∃ f : Field, f.required = true ∧ f.of json = none
  · exact .inr h
  · left
    intro f hrequired
    cases hf : f.of json with
    | none => exact absurd ⟨f, hrequired, hf⟩ h
    | some v => exact ⟨v, rfl⟩

/-- Documents with the same members for all the fields are taken for the same. -/
theorem createFromJson_congr {text' : String} {json' : Json} (hparse : lib.parse text = .ok json)
    (hparse' : lib.parse text' = .ok json') (h : ∀ f : Field, f.of json = f.of json') :
    createFromJson lib text = createFromJson lib text' := by
  -- Both texts have the required members, or both lack the same one
  obtain hfields | ⟨f, hrequired, hnone⟩ := required_cases json
  · have hfields' : ∀ f : Field, f.required = true → ∃ v, f.of json' = some v := by
      intro f hrequired
      rw [← h f]
      exact hfields f hrequired
    obtain ⟨c, hc, hget⟩ := createFromJson_fields hparse hfields
    obtain ⟨c', hc', hget'⟩ := createFromJson_fields hparse' hfields'
    have heq : c = c' := by
      apply Configuration.get_injective
      intro f
      rw [hget, hget', h]
    rw [hc, hc', heq]
  · rw [createFromJson_missing hparse hrequired hnone,
      createFromJson_missing hparse' hrequired ((h f).symm.trans hnone)]

/-- The fields of a configuration that was made of a document. -/
theorem get_of_ok {c : Configuration} (hparse : lib.parse text = .ok json)
    (hc : createFromJson lib text = .ok c) (f : Field) : c.get f = f.of json := by
  obtain hfields | ⟨g, hrequired, hnone⟩ := required_cases json
  · obtain ⟨c', hc', hget⟩ := createFromJson_fields hparse hfields
    rw [hc, Except.ok.injEq] at hc'
    rw [hc', hget]
  · rw [createFromJson_missing hparse hrequired hnone] at hc
    cases hc

end Texts

/-- **What becomes of a text.** A text that is no JSON throws an exception of the library; one
    whose document has no member, or none of the right type, for one of the required fields
    throws `std::bad_optional_access`, and no other does; and of any other a configuration is
    made, each of whose fields has what the member of its name is for it. So a member has no
    influence on any field but the one of its name, and none at all if there is no such
    field. -/
theorem createFromJson_outcomes (lib : NlohmannJson) (text : String) :
    (∀ what, lib.parse text = .error what →
      createFromJson lib text = .error (.jsonException what)) ∧
    (createFromJson lib text = .error .badOptionalAccess ↔
      ∃ json, lib.parse text = .ok json ∧ ∃ f : Field, f.required = true ∧ f.of json = none) ∧
    (∀ json, lib.parse text = .ok json → (∀ f : Field, f.required = true → f.of json ≠ none) →
      ∃ c, createFromJson lib text = .ok c ∧ ∀ f, c.get f = f.of json) ∧
    Function.Injective Field.name ∧
    ∀ text' json json' name, lib.parse text = .ok json → lib.parse text' = .ok json' →
      (∀ key, key ≠ name → json.find? key = json'.find? key) →
      (∀ c c', createFromJson lib text = .ok c → createFromJson lib text' = .ok c' →
        ∀ f : Field, f.name ≠ name → c.get f = c'.get f) ∧
      ((∀ f : Field, f.name ≠ name) → createFromJson lib text = createFromJson lib text') := by
  have hfails : ∀ what, lib.parse text = .error what →
      createFromJson lib text = .error (.jsonException what) := by
    intro what hparse
    simp only [createFromJson, hparse, Except.mapError, bind, Except.bind]
  refine ⟨hfails, ⟨?_, ?_⟩, ?_, Field.name_injective, ?_⟩
  · intro hbad
    cases hparse : lib.parse text with
    | error what =>
      rw [hfails what hparse] at hbad
      cases hbad
    | ok json =>
      -- With all of them there is a configuration, which is no exception
      obtain hfields | hmissing := required_cases json
      · obtain ⟨c, hc, -⟩ := createFromJson_fields hparse hfields
        rw [hc] at hbad
        cases hbad
      · exact ⟨json, rfl, hmissing⟩
  · rintro ⟨json, hparse, f, hrequired, hnone⟩
    exact createFromJson_missing hparse hrequired hnone
  · intro json hparse h
    apply createFromJson_fields hparse
    intro f hrequired
    exact Option.ne_none_iff_exists'.mp (h f hrequired)
  · intro text' json json' name hparse hparse' hothers
    constructor
    · -- Each field depends on the member of its own name, and the names differ
      intro c c' hc hc' f hname
      rw [get_of_ok hparse hc, get_of_ok hparse' hc']
      exact Field.of_congr (hothers f.name hname)
    · intro hname
      exact createFromJson_congr hparse hparse' fun f => Field.of_congr (hothers f.name (hname f))

end SapperBricks.OpenID
