import SapperBricks.Native.JwtAuth

/-!
# Which tokens the JWT authentication hook accepts

A token is accepted when `decode_token` and then `verify_token` return true. This file
says what acceptance comes down to: which header was read, whose key was asked for, and
with which arguments the library checked the token.

## Key results

- `extractHeader_eq_some`: what a header that is found was read from
- `invalidTokenType_eq_false`: the type check lets a header pass exactly when it has a type
- `token_accepted_iff`: the tokens the hook accepts
-/

namespace SapperBricks

/-! ## Header texts -/

/-- The text up to the first `.`, or all of it. -/
def headerText (encStr : String) : String :=
  String.ofList (encStr.toList.takeWhile (· != '.'))

/-- Cutting a string at the position `find` gives is taking it while the character differs. -/
theorem substrTo_findChar (encStr : String) :
    substrTo encStr (findChar encStr '.') = headerText encStr := by
  unfold headerText findChar
  rw [List.takeWhile_eq_take_findIdx_not]
  cases h : encStr.toList.findIdx? (· == '.') with
  | none =>
    -- There is no dot to stop at
    have hall : ∀ c ∈ encStr.toList, (c == '.') = false := List.findIdx?_eq_none_iff.mp h
    have hlen : encStr.toList.findIdx (fun c => !(c != '.')) = encStr.toList.length := by
      rw [List.findIdx_eq_length]
      intro c hc
      simpa using hall c hc
    rw [hlen, List.take_length, String.ofList_toList, substrTo]
  | some n =>
    -- The text is taken up to the position of the dot
    have hn : encStr.toList.findIdx (fun c => !(c != '.')) = n := by
      have := List.findIdx?_eq_some_iff_findIdx_eq.mp h
      simpa only [bne, Bool.not_not] using this.2
    rw [hn, substrTo]

namespace JwtAuthRequestHook

variable {σ : Type}

/-- A header is found exactly when the library decodes the text without an error and it has
    a string `alg`; its other members are read if they are strings. -/
theorem extractHeader_eq_some {lib : JwtLib σ} {encStr : String} {header : JWTHeader} :
    extractHeader lib encStr = .ok (some header) ↔
      ∃ headerJson headerEc, lib.decodeHeader (headerText encStr) = .ok (headerJson, headerEc) ∧
        headerEc.isSet = false ∧ headerJson.stringAt? "alg" = some header.alg ∧
        headerJson.stringAt? "typ" = header.typ ∧ headerJson.stringAt? "kid" = header.kid := by
  unfold extractHeader
  rw [substrTo_findChar]
  cases lib.decodeHeader (headerText encStr) with
  | error e => simp
  | ok decoded =>
    obtain ⟨headerJson, headerEc⟩ := decoded
    cases hec : headerEc.isSet with
    | true => simp [hec]
    | false =>
      obtain ⟨alg, typ, kid⟩ := header
      cases halg : headerJson.stringAt? "alg" with
      | none => simp [hec, halg]
      | some a => simp [hec, halg]

/-- The type check lets a header pass exactly when it has a type, whatever the type is. -/
theorem invalidTokenType_eq_false {header : JWTHeader} :
    invalidTokenType header = .ok false ↔ ∃ typ, header.typ = some typ := by
  unfold invalidTokenType
  cases header.typ with
  | none => simp [value, Except.map]
  | some typ => simp

/-- A decoded token is verified exactly when decoding it gave no error. -/
theorem verifyToken_eq_ok {t : TokenImpl} :
    verifyToken (some t) = .ok (.ok ()) ↔ t.ec.isSet = false := by
  unfold verifyToken anyCast
  cases h : t.ec.isSet <;> simp [Except.map, h]

/-! ## Acceptance -/

/-- What the acceptance of a token comes down to: the prefix, the header, the provider of
    its algorithm, the key that provider gives for its key id, and a call of `jwt::decode`
    that reports no error. `name` is how the name of the algorithm is handed to the
    library. -/
inductive Accepts (self : JwtAuthRequestHook σ) (name : String → String) (token : String) (s : σ) :
    TokenImpl → σ → Prop
  | intro {encStr : String} {headerJson : Json} {headerEc : ErrorCode} {alg typ : String}
      {keyProvider : KeyProvider σ} {key : String} {s₁ : σ} {jwtObject : JwtObject}
      {ec : ErrorCode} {s₂ : σ}
      (starts : token = self.parameters.tokenPrefix ++ encStr)
      (decodesHeader : self.lib.decodeHeader (headerText encStr) = .ok (headerJson, headerEc))
      (headerOk : headerEc.isSet = false)
      (hasAlg : headerJson.stringAt? "alg" = some alg)
      (hasTyp : headerJson.stringAt? "typ" = some typ)
      (hasProvider : self.parameters.keyProvider[alg]? = some keyProvider)
      (givesKey : keyProvider ((headerJson.stringAt? "kid").getD "") s = (.ok key, s₁))
      (keyFound : key ≠ "")
      (decodes : self.lib.decode ⟨encStr, [name alg], key, self.parameters.issuer,
        self.parameters.audience, true⟩ s₁ = (.ok (jwtObject, ec), s₂))
      (noError : ec.isSet = false) :
      Accepts self name token s ⟨key, jwtObject, ec⟩ s₂

/-- A token that both functions let pass was accepted for all the reasons there are. -/
theorem Accepts.of_decodeToken {self : JwtAuthRequestHook σ} {token : String} {s s' : σ}
    {t : TokenImpl} (hdecode : self.decodeToken token s = (.ok (.ok t), s'))
    (hverify : verifyToken (some t) = .ok (.ok ())) : self.Accepts cStr token s t s' := by
  unfold decodeToken at hdecode
  dsimp only at hdecode
  -- The prefix
  split at hdecode
  · exact nomatch hdecode
  rename_i hprefix
  have hstarts := (append_substr (not_not.mp hprefix)).symm
  -- The header and its type
  split at hdecode
  · exact nomatch hdecode
  · exact nomatch hdecode
  rename_i header hheader
  obtain ⟨headerJson, headerEc, hjson, hec, halg, htyp, hkid⟩ := extractHeader_eq_some.mp hheader
  split at hdecode
  · exact nomatch hdecode
  · exact nomatch hdecode
  rename_i hvalid
  obtain ⟨typ, hsome⟩ := invalidTokenType_eq_false.mp hvalid
  -- The provider of the algorithm and its key
  split at hdecode
  · exact nomatch hdecode
  rename_i keyProvider hprovider
  split at hdecode
  · exact nomatch hdecode
  rename_i key s₁ hkey
  split at hdecode
  · exact nomatch hdecode
  rename_i hnonempty
  -- The call of the library, some of whose errors end here
  split at hdecode
  · exact nomatch hdecode
  rename_i jwtObject ec s₂ hdecoded
  split at hdecode
  · exact nomatch hdecode
  · cases hdecode
    exact .intro hstarts hjson hec halg (htyp.trans hsome) hprovider (hkid ▸ hkey) hnonempty
      hdecoded (verifyToken_eq_ok.mp hverify)

/-- A token with all of these reasons passes both functions. -/
theorem Accepts.decodeToken {self : JwtAuthRequestHook σ} {token : String} {s s' : σ}
    {t : TokenImpl} (h : self.Accepts cStr token s t s') :
    self.decodeToken token s = (.ok (.ok t), s') ∧ verifyToken (some t) = .ok (.ok ()) := by
  obtain @⟨encStr, headerJson, headerEc, alg, typ, keyProvider, key, s₁, jwtObject, ec, _, rfl,
    hjson, hec, halg, htyp, hprovider, hkey, hnonempty, hdecoded, hnone⟩ := h
  apply And.intro _ (verifyToken_eq_ok.mpr hnone)
  have hheader : extractHeader self.lib encStr =
      .ok (some ⟨alg, some typ, headerJson.stringAt? "kid"⟩) :=
    extractHeader_eq_some.mpr ⟨headerJson, headerEc, hjson, hec, halg, htyp, rfl⟩
  have hvalid : invalidTokenType ⟨alg, some typ, headerJson.stringAt? "kid"⟩ = .ok false :=
    invalidTokenType_eq_false.mpr ⟨typ, rfl⟩
  -- With these facts every condition of `decode_token` is decided
  unfold JwtAuthRequestHook.decodeToken
  simp only [substrTo_append, substr_append, hheader, hvalid, hprovider, hkey, hnonempty,
    hdecoded, hnone, ne_eq, not_true_eq_false, Bool.false_eq_true, false_and, if_false]

/-- How the name of the algorithm is handed over matters only for names that differ. -/
theorem Accepts.congr {self : JwtAuthRequestHook σ} {name name' : String → String}
    {token : String} {s s' : σ} {t : TokenImpl}
    (hname : ∀ alg ∈ self.parameters.keyProvider, name alg = name' alg)
    (h : self.Accepts name token s t s') : self.Accepts name' token s t s' := by
  obtain ⟨hstarts, hjson, hec, halg, htyp, hprovider, hkey, hnonempty, hdecoded, hnone⟩ := h
  -- The algorithm is a key of the map, since it has a provider
  have hmem : _ ∈ self.parameters.keyProvider :=
    Std.ExtTreeMap.mem_iff_isSome_getElem?.mpr (by rw [hprovider]; rfl)
  rw [hname _ hmem] at hdecoded
  exact .intro hstarts hjson hec halg htyp hprovider hkey hnonempty hdecoded hnone

/-- **The accepted tokens.** A token passes `decode_token` and `verify_token` exactly when it
    starts with the prefix, its header has a string `typ` and a string `alg` that is a key of
    the provider map, the provider of that very algorithm gives a non-empty key for the key id
    of the header, and `jwt::decode`, called on all of the text after the prefix with this
    algorithm alone, this key, the configured issuer and audience and verification on,
    reports no error. The algorithm is handed over as a C string, which is its name when no
    name in the map contains a NUL. -/
theorem token_accepted_iff (self : JwtAuthRequestHook σ) (token : String) (s : σ) (t : TokenImpl)
    (s' : σ) :
    ((self.decodeToken token s = (.ok (.ok t), s') ∧ verifyToken (some t) = .ok (.ok ())) ↔
      self.Accepts cStr token s t s') ∧
    ((∀ alg ∈ self.parameters.keyProvider, '\x00' ∉ alg.toList) →
      ((self.decodeToken token s = (.ok (.ok t), s') ∧ verifyToken (some t) = .ok (.ok ())) ↔
        self.Accepts id token s t s')) := by
  have haccepts : (self.decodeToken token s = (.ok (.ok t), s') ∧
      verifyToken (some t) = .ok (.ok ())) ↔ self.Accepts cStr token s t s' :=
    ⟨fun ⟨hdecode, hverify⟩ => .of_decodeToken hdecode hverify, fun h => h.decodeToken⟩
  apply And.intro haccepts
  intro hnul
  -- Without NUL the C string is the name itself
  have hname : ∀ alg ∈ self.parameters.keyProvider, cStr alg = id alg :=
    fun alg halg => cStr_eq_self (hnul alg halg)
  rw [haccepts]
  exact ⟨Accepts.congr hname, Accepts.congr fun alg halg => (hname alg halg).symm⟩

/-! ## A library that records its calls -/

/-- A library on the two headers of the tests that accepts every token and records the
    arguments it is called with. -/
def testLib : JwtLib (List DecodeArgs) where
  decodeHeader text :=
    if text = "eyJhbGciOiJIUzI1NiIsInR5cCI6IkpXVCJ9" then
      .ok (.ofMembers [("alg", .string "HS256"), ("typ", .string "JWT")], ⟨0, .other 0, ""⟩)
    else if text = "eyJhbGciOiJIUzI1Nlx1MDAwMCIsInR5cCI6IkpXVCJ9" then
      .ok (.ofMembers [("alg", .string "HS256\x00"), ("typ", .string "JWT")], ⟨0, .other 0, ""⟩)
    else .ok (.null, ⟨1, .decodeErr, "json parse error"⟩)
  decode args calls := (.ok (⟨.ofMembers []⟩, ⟨0, .other 0, ""⟩), calls ++ [args])

/-- A hook with one key, for an algorithm with a NUL in its name. -/
def nulHook : JwtAuthRequestHook (List DecodeArgs) where
  lib := testLib
  parameters :=
    { keyProvider := (∅ : Std.ExtTreeMap String (KeyProvider (List DecodeArgs))).insert
        "HS256\x00" fun _ calls => (.ok "FB685C66", calls)
      issuer := "the_issuer"
      audience := "the_audience" }

/-- The token of the header with that name. -/
def nulToken : String := "eyJhbGciOiJIUzI1Nlx1MDAwMCIsInR5cCI6IkpXVCJ9.e30.c2ln"

/-- The call of the library for it. -/
def nulCall : DecodeArgs :=
  ⟨nulToken, ["HS256"], "FB685C66", "the_issuer", "the_audience", true⟩

/-- The name of an algorithm with a NUL is cut: the token is accepted, but the library was
    not called with the algorithm whose provider gave the key. -/
theorem token_accepted_nul :
    ∃ t, nulHook.decodeToken ("Bearer " ++ nulToken) [] = (.ok (.ok t), [nulCall]) ∧
      verifyToken (some t) = .ok (.ok ()) ∧
      ¬ nulHook.Accepts id ("Bearer " ++ nulToken) [] t [nulCall] := by
  refine ⟨_, rfl, rfl, ?_⟩
  intro h
  obtain ⟨-, -, -, -, -, hprovider, -, -, hdecoded, -⟩ := h
  -- The recorded call names the algorithm HS256, which the map does not have
  have hcall := congrArg (fun r => (r.2.getLast?.map DecodeArgs.algorithms)) hdecoded
  simp only [nulHook, testLib, List.getLast?_concat, Option.map_some, id] at hcall
  cases hcall
  exact nomatch hprovider

/-- A hook for HS256. -/
def hs256Hook : JwtAuthRequestHook (List DecodeArgs) where
  lib := testLib
  parameters := hs256Parameters "FB685C66" "the_issuer" "the_audience" []

/-- A token of HS256 is accepted for its own reasons. -/
theorem token_accepted_iff_test :
    (∀ alg ∈ hs256Hook.parameters.keyProvider, '\x00' ∉ alg.toList) ∧
    ∃ t s', hs256Hook.Accepts id "Bearer eyJhbGciOiJIUzI1NiIsInR5cCI6IkpXVCJ9.e30.c2ln" [] t s' := by
  have hnul : ∀ alg ∈ hs256Hook.parameters.keyProvider, '\x00' ∉ alg.toList := by
    intro alg halg
    have : "HS256" = alg := by
      simpa [hs256Hook, hs256Parameters] using halg
    subst this
    decide
  exact ⟨hnul, _, _, ((token_accepted_iff hs256Hook _ [] _ _).2 hnul).mp ⟨rfl, rfl⟩⟩

end JwtAuthRequestHook

end SapperBricks
