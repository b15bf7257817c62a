import SapperBricks.Spec.JwtAuthCorrect

/-!
# Where the JWT authentication hook throws

A token and its claims come from outside, so whatever they are the hook should answer them.
`decode_token` reads the type of a header exactly when there is none, and `extract_claim`
reads every claim as a string. This file says for which tokens and which claims they answer
all the same.

## Key results

- `decodeToken_typed`: a token whose header has a string `typ` is answered
- `decodeToken_sound_iff`: the tokens that are answered, and rejected if their type is wrong
- `extractClaim_sound_iff`: the claims that are answered
-/

namespace SapperBricks.JwtAuthRequestHook

variable {σ : Type}

/-! ## Decoding -/

/-- The key providers return and cpp-jwt reports its failures through error codes. -/
structure ReturnsNormally (hook : JwtAuthRequestHook σ) : Prop where
  decodeHeader : ∀ text, ∃ headerJson headerEc,
    hook.lib.decodeHeader text = .ok (headerJson, headerEc)
  keyProvider : ∀ (alg : String) (keyProvider : KeyProvider σ),
    hook.parameters.keyProvider[alg]? = some keyProvider → ∀ kid s, ∃ key s', keyProvider kid s = (.ok key, s')
  decode : ∀ args s, ∃ jwtObject ec s', hook.lib.decode args s = (.ok (jwtObject, ec), s')

/-- The header of a token with the prefix, if it decodes without an error. -/
def DecodesHeader (self : JwtAuthRequestHook σ) (token encStr : String) (headerJson : Json) :
    Prop :=
  token = self.parameters.tokenPrefix ++ encStr ∧
  ∃ headerEc, self.lib.decodeHeader (headerText encStr) = .ok (headerJson, headerEc) ∧
    headerEc.isSet = false

/-- A token is answered, and it is rejected if its header has a string `typ` other than
    `JWT`. -/
def Sound (self : JwtAuthRequestHook σ) (token : String) (s : σ) : Prop :=
  (∃ r s', self.decodeToken token s = (.ok r, s')) ∧
  ∀ encStr headerJson typ, self.DecodesHeader token encStr headerJson →
    headerJson.stringAt? "typ" = some typ → typ ≠ "JWT" →
      ∃ details s', self.decodeToken token s = (.ok (.error details), s')

/-- A token with this algorithm and key id is rejected for another reason than its type:
    there is no provider for the algorithm, its key is empty, or the library reports an error
    of the algorithm or of decoding. -/
def RejectedAnyway (self : JwtAuthRequestHook σ) (encStr alg : String) (kid : Option String)
    (s : σ) : Prop :=
  ∀ (keyProvider : KeyProvider σ) key s₁ jwtObject ec s₂, self.parameters.keyProvider[alg]? = some keyProvider →
    keyProvider (kid.getD "") s = (.ok key, s₁) → key ≠ "" →
    self.lib.decode ⟨encStr, [cStr alg], key, self.parameters.issuer, self.parameters.audience,
      true⟩ s₁ = (.ok (jwtObject, ec), s₂) →
    ec.isSet = true ∧ (ec.category = .algorithmErr ∨ ec.category = .decodeErr)

/-- A header that decodes and has a string `alg` has a string `typ`, and that is `JWT` or the
    token is rejected anyway. -/
def TypeGiven (self : JwtAuthRequestHook σ) (token : String) (s : σ) : Prop :=
  ∀ encStr headerJson alg, self.DecodesHeader token encStr headerJson →
    headerJson.stringAt? "alg" = some alg →
      ∃ typ, headerJson.stringAt? "typ" = some typ ∧
        (typ = "JWT" ∨ self.RejectedAnyway encStr alg (headerJson.stringAt? "kid") s)

/-- The text after the prefix is the token's only one. -/
theorem DecodesHeader.unique {self : JwtAuthRequestHook σ} {token encStr encStr' : String}
    {headerJson headerJson' : Json} (h : self.DecodesHeader token encStr headerJson)
    (h' : self.DecodesHeader token encStr' headerJson') :
    encStr' = encStr ∧ headerJson' = headerJson := by
  obtain ⟨htoken, headerEc, hjson, -⟩ := h
  obtain ⟨htoken', headerEc', hjson', -⟩ := h'
  obtain rfl : encStr' = encStr := by
    rw [← substr_append self.parameters.tokenPrefix encStr', ← htoken', htoken, substr_append]
  rw [hjson] at hjson'
  cases hjson'
  exact ⟨rfl, rfl⟩

/-- A token whose header does not decode is rejected. -/
theorem decodeToken_of_not_decodesHeader {self : JwtAuthRequestHook σ}
    (hself : self.ReturnsNormally) {token : String} {s : σ}
    (h : ∀ encStr headerJson, ¬self.DecodesHeader token encStr headerJson) :
    ∃ details, self.decodeToken token s = (.ok (.error details), s) := by
  unfold decodeToken
  dsimp only
  split
  · exact ⟨_, rfl⟩
  · rename_i hprefix
    have hstarts := (append_substr (not_not.mp hprefix)).symm
    obtain ⟨headerJson, headerEc, hjson⟩ :=
      hself.decodeHeader (headerText (substr token self.parameters.tokenPrefix.length))
    have hec : headerEc.isSet = true := by
      rw [← Bool.not_eq_false]
      exact fun hec => h _ headerJson ⟨hstarts, headerEc, hjson, hec⟩
    simp only [extractHeader, substrTo_findChar, hjson, hec, if_true]
    exact ⟨_, rfl⟩

/-- A token whose header has no string `alg` is rejected. -/
theorem decodeToken_of_alg_none {self : JwtAuthRequestHook σ} {token encStr : String}
    {headerJson : Json} {s : σ} (h : self.DecodesHeader token encStr headerJson)
    (halg : headerJson.stringAt? "alg" = none) :
    self.decodeToken token s = (.ok (.error "invalid token header"), s) := by
  obtain ⟨rfl, headerEc, hjson, hec⟩ := h
  simp [decodeToken, extractHeader, substrTo_findChar, hjson, hec, halg]

/-- A token whose header has no string `typ` makes the hook throw. -/
theorem decodeToken_of_typ_none {self : JwtAuthRequestHook σ} {token encStr alg : String}
    {headerJson : Json} {s : σ} (h : self.DecodesHeader token encStr headerJson)
    (halg : headerJson.stringAt? "alg" = some alg) (htyp : headerJson.stringAt? "typ" = none) :
    self.decodeToken token s = (.error .badOptionalAccess, s) := by
  obtain ⟨rfl, headerEc, hjson, hec⟩ := h
  simp [decodeToken, extractHeader, substrTo_findChar, hjson, hec, halg, htyp, invalidTokenType,
    value, Except.map]

/-- A token for which the provider throws makes the hook throw. -/
theorem decodeToken_of_key_error {self : JwtAuthRequestHook σ} {token encStr alg typ : String}
    {headerJson : Json} {keyProvider : KeyProvider σ} {s s' : σ} {e : Exn}
    (h : self.DecodesHeader token encStr headerJson)
    (halg : headerJson.stringAt? "alg" = some alg) (htyp : headerJson.stringAt? "typ" = some typ)
    (hprovider : self.parameters.keyProvider[alg]? = some keyProvider)
    (hkey : keyProvider ((headerJson.stringAt? "kid").getD "") s = (.error e, s')) :
    self.decodeToken token s = (.error e, s') := by
  obtain ⟨rfl, headerEc, hjson, hec⟩ := h
  simp [decodeToken, extractHeader, substrTo_findChar, hjson, hec, halg, htyp, invalidTokenType,
    hprovider, hkey]

/-- A token for which the provider has no key is rejected. -/
theorem decodeToken_of_key_empty {self : JwtAuthRequestHook σ} {token encStr alg typ : String}
    {headerJson : Json} {keyProvider : KeyProvider σ} {s s' : σ}
    (h : self.DecodesHeader token encStr headerJson)
    (halg : headerJson.stringAt? "alg" = some alg) (htyp : headerJson.stringAt? "typ" = some typ)
    (hprovider : self.parameters.keyProvider[alg]? = some keyProvider)
    (hkey : keyProvider ((headerJson.stringAt? "kid").getD "") s = (.ok "", s')) :
    self.decodeToken token s = (.ok (.error "key not found"), s') := by
  obtain ⟨rfl, headerEc, hjson, hec⟩ := h
  simp [decodeToken, extractHeader, substrTo_findChar, hjson, hec, halg, htyp, invalidTokenType,
    hprovider, hkey]

/-- A token whose header has both is answered, and it is accepted unless it is rejected for
    another reason than its type. -/
theorem decodeToken_typed {self : JwtAuthRequestHook σ} (hself : self.ReturnsNormally)
    {token encStr alg typ : String} {headerJson : Json} {s : σ}
    (h : self.DecodesHeader token encStr headerJson)
    (halg : headerJson.stringAt? "alg" = some alg)
    (htyp : headerJson.stringAt? "typ" = some typ) :
    ∃ r s', self.decodeToken token s = (.ok r, s') ∧
      ((∃ details, r = .error details) ↔
        self.RejectedAnyway encStr alg (headerJson.stringAt? "kid") s) := by
  obtain ⟨rfl, headerEc, hjson, hec⟩ := h
  unfold decodeToken RejectedAnyway
  simp only [substrTo_append, substr_append, ne_eq, not_true_eq_false, if_false, extractHeader,
    substrTo_findChar, hjson, hec, halg, htyp, invalidTokenType, Option.isSome_some, if_true,
    Bool.false_eq_true]
  cases hprovider : self.parameters.keyProvider[alg]? with
  | none => exact ⟨_, s, rfl, iff_of_true ⟨_, rfl⟩ nofun⟩
  | some keyProvider =>
    -- From here on the outcomes of the parameters decide, in the order of the source
    obtain ⟨key, s₁, hkey⟩ := hself.keyProvider alg keyProvider hprovider
      ((headerJson.stringAt? "kid").getD "") s
    simp only [hkey]
    by_cases hempty : key = ""
    · rw [if_pos hempty]
      refine ⟨_, s₁, rfl, iff_of_true ⟨_, rfl⟩ ?_⟩
      -- The key of the token is this one, and it is empty
      intro keyProvider' key' s₁' jwtObject ec s₂ hsome hkey' hne
      cases hsome
      rw [hkey] at hkey'
      cases hkey'
      exact absurd hempty hne
    · rw [if_neg hempty]
      obtain ⟨jwtObject, ec, s₂, hdecode⟩ := hself.decode ⟨encStr, [cStr alg], key,
        self.parameters.issuer, self.parameters.audience, true⟩ s₁
      simp only [hdecode]
      by_cases hec : ec.isSet = true ∧ (ec.category = .algorithmErr ∨ ec.category = .decodeErr)
      · rw [if_pos hec]
        refine ⟨_, s₂, rfl, iff_of_true ⟨_, rfl⟩ ?_⟩
        intro keyProvider' key' s₁' jwtObject' ec' s₂' hsome hkey' _ hdecode'
        cases hsome
        rw [hkey] at hkey'
        cases hkey'
        rw [hdecode] at hdecode'
        cases hdecode'
        exact hec
      · rw [if_neg hec]
        refine ⟨_, s₂, rfl, iff_of_false nofun ?_⟩
        intro hrejected
        exact hec (hrejected keyProvider key s₁ jwtObject ec s₂ rfl hkey hempty hdecode)

/-- **Which tokens are answered soundly.** If the key providers return and cpp-jwt reports its
    failures through error codes: `decode_token` does not throw, and rejects a token whose
    header has a string `typ` other than `JWT`, exactly for the tokens whose header, if it
    decodes and has a string `alg`, has a string `typ` that is `JWT` where nothing else is
    wrong with the token. -/
theorem decodeToken_sound_iff (self : JwtAuthRequestHook σ) (hself : self.ReturnsNormally)
    (token : String) (s : σ) : self.Sound token s ↔ self.TypeGiven token s := by
  constructor
  · intro ⟨⟨r, s', hanswer⟩, hrejects⟩ encStr headerJson alg h halg
    cases htyp : headerJson.stringAt? "typ" with
    -- `value()` of no type throws, which the answer excludes
    | none =>
      rw [decodeToken_of_typ_none h halg htyp] at hanswer
      cases hanswer
    | some typ =>
      refine ⟨typ, rfl, ?_⟩
      by_cases hjwt : typ = "JWT"
      · exact .inl hjwt
      · obtain ⟨details, s', hrejected⟩ := hrejects encStr headerJson typ h htyp hjwt
        -- The type is not looked at, so something else rejects the token
        obtain ⟨r, s'', hr, hiff⟩ := decodeToken_typed (s := s) hself h halg htyp
        rw [hrejected] at hr
        cases hr
        exact .inr (hiff.mp ⟨details, rfl⟩)
  · intro htypeGiven
    by_cases hheader : ∃ encStr headerJson, self.DecodesHeader token encStr headerJson
    · obtain ⟨encStr, headerJson, h⟩ := hheader
      cases halg : headerJson.stringAt? "alg" with
      | none =>
        have hrejected := decodeToken_of_alg_none (s := s) h halg
        exact ⟨⟨_, s, hrejected⟩, fun _ _ _ _ _ _ => ⟨_, s, hrejected⟩⟩
      | some alg =>
        obtain ⟨typ, htyp, hjwt⟩ := htypeGiven encStr headerJson alg h halg
        obtain ⟨r, s', hr, hiff⟩ := decodeToken_typed (s := s) hself h halg htyp
        refine ⟨⟨r, s', hr⟩, ?_⟩
        -- A token decodes to one header only
        intro encStr' headerJson' typ' h' htyp' hne
        obtain ⟨rfl, rfl⟩ := h.unique h'
        obtain rfl : typ = typ' := Option.some.inj (htyp.symm.trans htyp')
        obtain ⟨details, rfl⟩ := hiff.mpr (hjwt.resolve_left hne)
        exact ⟨details, s', hr⟩
    · simp only [not_exists] at hheader
      obtain ⟨details, hrejected⟩ := decodeToken_of_not_decodesHeader (s := s) hself hheader
      exact ⟨⟨_, s, hrejected⟩, fun _ _ _ h => absurd h (hheader _ _)⟩

/-- A library on three headers, with the types `JWT` and `jwt` and none. -/
def typesLib : JwtLib Unit where
  decodeHeader text :=
    if text = "eyJhbGciOiJIUzI1NiIsInR5cCI6IkpXVCJ9" then
      .ok (.ofMembers [("alg", .string "HS256"), ("typ", .string "JWT")], ⟨0, .other 0, ""⟩)
    else if text = "eyJhbGciOiJIUzI1NiIsInR5cCI6Imp3dCJ9" then
      .ok (.ofMembers [("alg", .string "HS256"), ("typ", .string "jwt")], ⟨0, .other 0, ""⟩)
    else if text = "eyJhbGciOiJIUzI1NiJ9" then
      .ok (.ofMembers [("alg", .string "HS256")], ⟨0, .other 0, ""⟩)
    else .ok (.null, ⟨1, .decodeErr, "json parse error"⟩)
  decode _ s := (.ok (⟨.ofMembers []⟩, ⟨0, .other 0, ""⟩), s)

/-- A hook for HS256 with this library. -/
def typesHook : JwtAuthRequestHook Unit where
  lib := typesLib
  parameters := hs256Parameters "FB685C66" "the_issuer" "the_audience" []

theorem typesHook_returnsNormally : typesHook.ReturnsNormally := by
  constructor
  · intro text
    simp only [typesHook, typesLib]
    split_ifs <;> exact ⟨_, _, rfl⟩
  · intro alg keyProvider h kid s
    have hkeys : ("HS256" = alg ∧ (fun _ s => (.ok "FB685C66", s)) = keyProvider) := by
      simpa [typesHook, hs256Parameters, Std.ExtTreeMap.getElem?_insert] using h
    obtain ⟨-, rfl⟩ := hkeys
    exact ⟨_, s, rfl⟩
  · intro args s
    exact ⟨_, _, s, rfl⟩

/-- A token of type `JWT` is answered. -/
theorem decodeToken_sound_iff_test :
    typesHook.Sound "Bearer eyJhbGciOiJIUzI1NiIsInR5cCI6IkpXVCJ9.e30.c2ln" () := by
  apply (decodeToken_sound_iff typesHook typesHook_returnsNormally _ ()).mpr
  intro encStr headerJson alg h halg
  have hheader : typesHook.DecodesHeader
      "Bearer eyJhbGciOiJIUzI1NiIsInR5cCI6IkpXVCJ9.e30.c2ln"
      "eyJhbGciOiJIUzI1NiIsInR5cCI6IkpXVCJ9.e30.c2ln" _ := ⟨rfl, _, rfl, rfl⟩
  obtain ⟨rfl, rfl⟩ := hheader.unique h
  exact ⟨"JWT", rfl, .inl rfl⟩

/-- A token whose header has no type makes the hook throw, and one of another type, which differs
    from `JWT` in the case of its letters only, is accepted. -/
theorem decodeToken_without_typ_throws :
    typesHook.ReturnsNormally ∧
    typesHook.decodeToken "Bearer eyJhbGciOiJIUzI1NiJ9.e30.c2ln" () =
      (.error .badOptionalAccess, ()) ∧
    ∃ t, typesHook.decodeToken "Bearer eyJhbGciOiJIUzI1NiIsInR5cCI6Imp3dCJ9.e30.c2ln" () =
      (.ok (.ok t), ()) :=
  ⟨typesHook_returnsNormally, rfl, _, rfl⟩

/-! ## Claims -/

/-- A claim is answered, and with its value if that is a string. -/
def ClaimSound (json : NlohmannJson) (t : TokenImpl) (claim : String) : Prop :=
  ∃ r, extractClaim json (some t) claim = .ok r ∧
    ∀ v, t.jwtObject.payload.stringAt? claim = some v → r = some v

/-- A claim the payload does not have. -/
theorem extractClaim_of_none (json : NlohmannJson) {t : TokenImpl} {claim : String}
    (h : t.jwtObject.payload.find? claim = none) :
    extractClaim json (some t) claim = .ok none := by
  simp [extractClaim, anyCast, h]

/-- A claim is read as a string, whatever it is. -/
theorem extractClaim_of_some (json : NlohmannJson) {t : TokenImpl} {claim : String} {v : Json}
    (h : t.jwtObject.payload.find? claim = some v) :
    extractClaim json (some t) claim = ((json.getString v).mapError .jsonException).map some := by
  simp [extractClaim, anyCast, h]

/-- **Which claims are answered soundly.** `extract_claim` does not throw, and gives the value
    of a claim that is a string, exactly for the claims that the payload does not have or that
    are strings. -/
theorem extractClaim_sound_iff (json : NlohmannJson) (t : TokenImpl) (claim : String) :
    ClaimSound json t claim ↔
      ∀ v, t.jwtObject.payload.find? claim = some v → ∃ text, v = .string text := by
  unfold ClaimSound Json.stringAt?
  cases hv : t.jwtObject.payload.find? claim with
  | none => exact iff_of_true ⟨none, extractClaim_of_none json hv, nofun⟩ nofun
  | some v =>
    rw [extractClaim_of_some json hv]
    cases v with
    | string text =>
      refine iff_of_true ⟨some text, rfl, fun v h => h⟩ ?_
      intro v h
      cases h
      exact ⟨text, rfl⟩
    | _ =>
      -- `get_claim_value` throws on every other type
      refine iff_of_false ?_ ?_
      · rintro ⟨r, h, -⟩
        cases h
      · intro h
        obtain ⟨text, htext⟩ := h _ rfl
        cases htext

/-- A library whose `get` throws a fixed text. -/
def claimsJson : NlohmannJson where
  parse _ := .error "parse error"
  dump _ := .error "invalid UTF-8 byte"
  atError key _ := "key '" ++ key ++ "' not found"
  typeError _ := "type must be string, but is number"
  castOutOfRange _ := 0

/-- A required claim that is a number makes the hook throw. -/
theorem extractClaim_exp_throws :
    extractClaim claimsJson
      (some ⟨"FB685C66", ⟨.ofMembers [("exp", .numberInteger 9999999999)]⟩, ⟨0, .other 0, ""⟩⟩)
      "exp" = .error (.jsonException "type must be string, but is number") := rfl

end SapperBricks.JwtAuthRequestHook
