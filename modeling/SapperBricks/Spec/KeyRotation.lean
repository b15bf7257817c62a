import SapperBricks.Native.SecuredService
import SapperBricks.Spec.JwtAuthCorrect
import SapperBricks.Spec.KeyProviderErrors
import SapperBricks.Spec.HttpFetch
import SapperBricks.ForStd.History

/-!
# Keys that change while a service runs

A service that authenticates tokens with the keys of a JWKS, which may answer every request of it
differently or not at all. Requests with any tokens come in on any threads, in any interleaving
of their sections.

## Key results

- `authentication_alone`: the sections of a request are `decode_token` and `verify_token`
- `accepted_trusted`: what is known of the key of every token that is accepted
- `keys_never_older`: keys that were replaced are not used for later requests
- `fetches_eq`: how often the JWKS is requested
-/

namespace SapperBricks

open Interleaving JwtAuthRequestHook RestJwksRSAKeyProvider

namespace RestJwksRSAKeyProvider

/-- The latest usable answer does not get older. -/
theorem LatestUsable.mono {provider : RestJwksRSAKeyProvider} {calls calls' n n' : Nat}
    {keys keys' : KeyMap}
    (h : provider.LatestUsable calls n keys) (h' : provider.LatestUsable calls' n' keys')
    (hcalls : calls ≤ calls') : n ≤ n' := by
  by_contra hlt
  exact h'.2.2 n keys (by omega) (Nat.lt_of_lt_of_le h.1 hcalls) h.2.1

end RestJwksRSAKeyProvider

namespace SecuredService

variable {ω : Type} {self : SecuredService ω} {config : OpenID.Configuration}

/-! ## The sections of a request -/

/-- The only provider is that of RS256. -/
theorem hook_keyProvider (alg : String) :
    (self.hook config).parameters.keyProvider[alg]? =
      if "RS256" = alg then some (self.lookupKey config) else none := by
  simp only [hook, rs256Parameters, Std.ExtTreeMap.getElem?_insert, Std.compare_eq_iff_eq,
    Std.ExtTreeMap.getElem?_empty]

/-- The prefix is the default. -/
theorem hook_tokenPrefix : (self.hook config).parameters.tokenPrefix = "Bearer " := rfl

/-- The header is read by the library alone, which is that of the service. -/
theorem hook_extractHeader (encStr : String) :
    extractHeader (self.hook config).lib encStr = extractHeader self.jwt encStr := rfl

/-- A token that is read has the prefix and a header with the algorithm RS256. -/
theorem readHeader_eq_inr {token encStr : String} {header : JWTHeader}
    (h : self.readHeader config token = .inr (encStr, header)) :
    token = "Bearer " ++ encStr ∧ extractHeader self.jwt encStr = .ok (some header) ∧
      header.alg = "RS256" := by
  unfold readHeader at h
  dsimp only at h
  -- One condition after the other, each of which could have ended it
  rw [hook_tokenPrefix] at h
  split at h
  · cases h
  rename_i hprefix
  split at h
  · cases h
  · cases h
  rename_i header' hheader
  split at h
  · cases h
  · cases h
  split at h
  · rename_i hprovider
    cases h
    -- The hook has a key provider for RS256 only
    rw [Std.ExtTreeMap.contains_eq_isSome_getElem?, hook_keyProvider] at hprovider
    refine ⟨(append_substr (not_not.mp hprefix)).symm, hheader, ?_⟩
    by_contra hne
    rw [if_neg (Ne.symm hne)] at hprovider
    cases hprovider
  · cases h

/-- So it is read. -/
theorem readHeader_of_header {token : String} {header : JWTHeader}
    (hstarts : substrTo token (some "Bearer ".length) = "Bearer ")
    (hheader : extractHeader self.jwt (substr token "Bearer ".length) = .ok (some header))
    (htype : invalidTokenType header = .ok false) (halg : header.alg = "RS256") :
    self.readHeader config token = .inr (substr token "Bearer ".length, header) := by
  unfold readHeader
  dsimp only
  rw [hook_tokenPrefix, hstarts, if_neg (not_not.mpr rfl), hheader]
  dsimp only
  rw [htype, Std.ExtTreeMap.contains_eq_isSome_getElem?, hook_keyProvider, halg]
  rfl

/-- No token is accepted for its header. -/
theorem readHeader_ne_accepted (token : String) (t : TokenImpl) :
    self.readHeader config token ≠ .inl (.accepted t) := by
  intro h
  unfold readHeader at h
  dsimp only at h
  split at h
  · cases h
  split at h
  · cases h
  · cases h
  split at h
  · cases h
  · cases h
  split at h <;> cases h

/-- A token that passes the check was decoded with the key, and no error was reported. -/
theorem checkToken_accepted {encStr key : String} {header : JWTHeader} {w w' : ω} {t : TokenImpl}
    (h : self.checkToken config encStr header key w = (.accepted t, w')) :
    key ≠ "" ∧ t.key = key ∧ t.ec.isSet = false ∧
      self.jwt.decode ⟨encStr, [cStr header.alg], key, config.issuer, self.audience, true⟩ w =
        (.ok (t.jwtObject, t.ec), w') := by
  -- Whatever makes it reject the token comes before the end
  unfold checkToken at h
  split at h
  · cases h
  rename_i hkey
  split at h
  · cases h
  rename_i jwtObject ec w'' hdecode
  split at h
  · cases h
  split at h
  · cases h
  · cases h
  rename_i hverify
  cases h
  exact ⟨hkey, rfl, verifyToken_eq_ok.mp hverify, hdecode⟩

/-- `authenticate` by its parts. -/
theorem authenticate_eq (token : String) (s : State ω) :
    self.authenticate config token s =
      match self.readHeader config token with
      | .inl verdict => (verdict, s)
      | .inr (encStr, header) =>
        match (self.keyProvider config).lookupAlone (header.kid.getD "") s.1 with
        | (.error e, cache) => (.threw e, (cache, s.2))
        | (.ok key, cache) =>
          let r := self.checkToken config encStr header key s.2
          (r.1, (cache, r.2)) := by
  unfold authenticate decodeToken readHeader
  dsimp only
  rw [hook_tokenPrefix]
  -- Both sides go through the conditions of `decode_token` in the same order
  by_cases hprefix : substrTo token (some "Bearer ".length) ≠ "Bearer "
  · rw [if_pos hprefix, if_pos hprefix]
  rw [if_neg hprefix, if_neg hprefix, hook_extractHeader]
  cases extractHeader self.jwt (substr token "Bearer ".length) with
  | error e => rfl
  | ok header? =>
    cases header? with
    | none => rfl
    | some header =>
      dsimp only
      cases invalidTokenType header with
      | error e => rfl
      | ok invalid =>
        cases invalid with
        | true => rfl
        | false =>
          rw [Std.ExtTreeMap.contains_eq_isSome_getElem?, hook_keyProvider]
          -- From here on it is the key provider and the library that decide
          by_cases halg : "RS256" = header.alg
          · rw [if_pos halg]
            simp only [Option.isSome_some, if_true, lookupKey]
            cases (self.keyProvider config).lookupAlone (header.kid.getD "") s.1 with
            | mk r cache =>
              cases r with
              | error e => rfl
              | ok key =>
                unfold checkToken
                dsimp only
                by_cases hkey : key = ""
                · rw [if_pos hkey, if_pos hkey]
                · rw [if_neg hkey, if_neg hkey]
                  -- A key was found: what is left is the decoding and its error code
                  dsimp only [hook, rs256Parameters]
                  cases self.jwt.decode _ s.2 with
                  | mk r w =>
                    cases r with
                    | error e => rfl
                    | ok decoded =>
                      dsimp only
                      by_cases herr : decoded.2.isSet ∧
                          (decoded.2.category = .algorithmErr ∨ decoded.2.category = .decodeErr)
                      · rw [if_pos herr, if_pos herr]
                      · rw [if_neg herr, if_neg herr]
                        dsimp only
                        split <;> rfl
          · rw [if_neg halg]
            rfl

/-- The section in which the header is read. -/
theorem exec_read (token : String) (s : State ω) :
    (self.authentication config).exec (.read token) s =
      match self.readHeader config token with
      | .inl verdict => (.inr verdict, s)
      | .inr (encStr, header) => (.inl (.lookup encStr header (.shared (header.kid.getD ""))), s) :=
  rfl

/-- A section of the lookup. -/
theorem exec_lookup (encStr : String) (header : JWTHeader) (l : LookupLoc) (s : State ω) :
    (self.authentication config).exec (.lookup encStr header l) s =
      (match ((self.keyProvider config).lookup.exec l s.1).1 with
        | .inl l => .inl (.lookup encStr header l)
        | .inr (.error e) => .inr (.threw e)
        | .inr (.ok key) => .inl (.check encStr header key),
        (((self.keyProvider config).lookup.exec l s.1).2, s.2)) := by
  cases h : (self.keyProvider config).lookup.exec l s.1 with
  | mk r cache =>
    simp only [authentication, h]
    cases r with
    | inl l => rfl
    | inr r => cases r <;> rfl

/-- The section in which the token is checked. -/
theorem exec_check (encStr key : String) (header : JWTHeader) (s : State ω) :
    (self.authentication config).exec (.check encStr header key) s =
      (.inr (self.checkToken config encStr header key s.2).1,
        (s.1, (self.checkToken config encStr header key s.2).2)) := rfl

/-- The sections of a request that no other thread gets between are `decode_token` and
    `verify_token`. -/
theorem authentication_alone (token : String) (s : State ω) :
    (self.authentication config).alone 4 ((self.authentication config).start token) s =
      some (self.authenticate config token s) := by
  have hstart : (self.authentication config).start token = .read token := rfl
  rw [hstart, authenticate_eq, Proc.alone, exec_read]
  cases self.readHeader config token with
  | inl verdict => rfl
  | inr r =>
    obtain ⟨encStr, header⟩ := r
    dsimp only
    rw [Proc.alone, exec_lookup]
    unfold lookupAlone sharedLookup
    -- A hit ends the lookup in its first section, a miss leads to the second one
    cases hdata : s.1.data[header.kid.getD ""]? with
    | some pem =>
      rw [lookup_exec_hit hdata]
      rfl
    | none =>
      rw [lookup_exec_miss hdata]
      dsimp only
      rw [Proc.alone, exec_lookup, lookup_exec_exclusive]
      cases (self.keyProvider config).exclusiveLookup (header.kid.getD "") s.1 with
      | mk r cache => cases r <;> rfl

/-! ## What a section does -/

/-- What is known of a request at a location: the location belongs to its token. -/
def AuthLoc.Of (service : SecuredService ω) (config : OpenID.Configuration) (token : String) :
    AuthLoc → Prop
  | .read token' => token' = token
  | .lookup encStr header l =>
    service.readHeader config token = .inr (encStr, header) ∧ l.keyId = header.kid.getD ""
  | .check encStr header _ => service.readHeader config token = .inr (encStr, header)

/-- A section that goes on does so for the same token. -/
theorem goesOn_of (token : String) (l : AuthLoc) (s : State ω) (l' : AuthLoc)
    (h : l.Of self config token) (hl' : ((self.authentication config).exec l s).1 = .inl l') :
    l'.Of self config token := by
  cases l with
  | read token' =>
    cases h
    rw [exec_read] at hl'
    -- The header decides whether there is another section, and which key it asks for
    cases hread : self.readHeader config token with
    | inl verdict =>
      rw [hread] at hl'
      cases hl'
    | inr r =>
      rw [hread] at hl'
      cases hl'
      exact ⟨hread, rfl⟩
  | lookup encStr header l =>
    rw [exec_lookup] at hl'
    -- The lookup goes on, or it has ended and the token is to be checked
    cases hx : ((self.keyProvider config).lookup.exec l s.1).1 with
    | inl l'' =>
      rw [hx] at hl'
      cases hl'
      exact ⟨h.1, lookup_goesOn_keyId _ l s.1 l'' h.2 hx⟩
    | inr r =>
      rw [hx] at hl'
      cases r with
      | error e => cases hl'
      | ok key =>
        cases hl'
        exact h.1
  | check encStr header key =>
    rw [exec_check] at hl'
    cases hl'

/-- What a section does to the cache: nothing, or one refresh for a key that is not in it. -/
theorem exec_cache (l : AuthLoc) (s : State ω) :
    ((self.authentication config).exec l s).2.1 = s.1 ∨
      ∃ encStr header keyId, l = .lookup encStr header (.exclusive keyId) ∧
        s.1.data[keyId]? = none ∧ ((self.authentication config).exec l s).2.1 =
          ((self.keyProvider config).updateKeyCache s.1).2 := by
  cases l with
  | read token =>
    left
    rw [exec_read]
    cases self.readHeader config token <;> rfl
  | lookup encStr header l =>
    rw [exec_lookup]
    -- Only the exclusive section of the lookup touches the cache
    obtain heq | ⟨keyId, rfl, hnone, heq⟩ := (self.keyProvider config).lookup_exec l s.1
    · exact .inl heq
    · exact .inr ⟨encStr, header, keyId, rfl, hnone, heq⟩
  | check encStr header key => exact .inl rfl

/-- A section after which a token is to be checked with a key left the key in the cache. -/
theorem exec_to_check {l : AuthLoc} {s : State ω} {token encStr key : String}
    {header : JWTHeader} (h : l.Of self config token)
    (hl' : ((self.authentication config).exec l s).1 = .inl (.check encStr header key))
    (hkey : key ≠ "") :
    ((self.authentication config).exec l s).2.1.data[header.kid.getD ""]? = some key := by
  cases l with
  | read token' =>
    rw [exec_read] at hl'
    cases hread : self.readHeader config token' with
    | inl verdict =>
      rw [hread] at hl'
      cases hl'
    | inr r =>
      rw [hread] at hl'
      cases hl'
  | lookup encStr' header' l =>
    rw [exec_lookup] at hl' ⊢
    cases hx : ((self.keyProvider config).lookup.exec l s.1).1 with
    | inl l'' =>
      rw [hx] at hl'
      cases hl'
    | inr r =>
      rw [hx] at hl'
      cases r with
      | error e => cases hl'
      | ok key' =>
        cases hl'
        -- What the lookup found is in the cache it was found in, under the id of the header
        have hfound := lookup_exec_found hx hkey
        rw [h.2] at hfound
        exact hfound
  | check encStr' header' key' =>
    rw [exec_check] at hl'
    cases hl'

/-- A section in which a token is accepted is the check of the token. -/
theorem exec_accepted {l : AuthLoc} {s : State ω} {t : TokenImpl}
    (h : ((self.authentication config).exec l s).1 = .inr (.accepted t)) :
    ∃ encStr header w, l = .check encStr header t.key ∧ t.key ≠ "" ∧ t.ec.isSet = false ∧
      self.jwt.decode ⟨encStr, [cStr header.alg], t.key, config.issuer, self.audience, true⟩ s.2 =
        (.ok (t.jwtObject, t.ec), w) := by
  cases l with
  | read token' =>
    rw [exec_read] at h
    cases hread : self.readHeader config token' with
    | inl verdict =>
      rw [hread] at h
      cases h
      exact absurd hread (readHeader_ne_accepted token' t)
    | inr r =>
      rw [hread] at h
      cases h
  | lookup encStr' header' l =>
    -- A lookup ends with a key or an exception, never with a verdict
    rw [exec_lookup] at h
    cases hx : ((self.keyProvider config).lookup.exec l s.1).1 with
    | inl l'' =>
      rw [hx] at h
      cases h
    | inr r =>
      rw [hx] at h
      cases r with
      | error e => cases h
      | ok key' => cases h
  | check encStr' header' key' =>
    rw [exec_check] at h
    cases hcheck : self.checkToken config encStr' header' key' s.2 with
    | mk verdict w =>
      rw [hcheck] at h
      cases h
      obtain ⟨hkey, rfl, hec, hdecode⟩ := checkToken_accepted hcheck
      exact ⟨encStr', header', w, rfl, hkey, hec, hdecode⟩

/-! ## The cache in a run -/

/-- The cache holds the latest usable answer; errors are always thrown on, so there is one. -/
def Filled (self : SecuredService ω) (config : OpenID.Configuration)
    (cache : RestJwksRSAKeyProvider.State) : Prop :=
  (self.keyProvider config).CacheHoldsLatest cache

/-- A service that has started has such a cache, and has requested the JWKS once. -/
theorem start_filled {cache : RestJwksRSAKeyProvider.State} (h : self.start = .ok (config, cache)) :
    self.Filled config cache ∧ cache.providerCalls = 1 := by
  unfold start at h
  cases hconfig : OpenID.createFromUrl self.json self.openid with
  | error e =>
    rw [hconfig] at h
    cases h
  | ok config' =>
    -- The configuration was fetched, so there is a key provider to construct
    cases hcache : (self.keyProvider config').construct with
    | error e =>
      simp only [hconfig, hcache, bind, Except.bind] at h
      cases h
    | ok cache' =>
      simp only [hconfig, hcache, bind, Except.bind, pure, Except.pure] at h
      cases h
      exact ⟨construct_cacheHoldsLatest hcache, construct_providerCalls hcache⟩

/-- What a section does to the number of requests. -/
theorem exec_providerCalls (l : AuthLoc) (s : State ω) :
    s.1.providerCalls ≤ ((self.authentication config).exec l s).2.1.providerCalls := by
  obtain heq | ⟨-, -, -, -, -, heq⟩ := exec_cache l s <;> rw [heq]
  rw [((self.keyProvider config).updateKeyCache_spec s.1).1]
  exact Nat.le_succ _

section Runs

variable {ι : Type} [DecidableEq ι] {tokens : ι → String}
  {c₀ c : Config ι AuthLoc (State ω) Verdict} {tr : List (Event ι)}

/-- The cache goes on to hold the latest usable answer. -/
theorem run_filled (hfilled : self.Filled config c₀.shared.1)
    (h : (self.authentication config).run tokens c₀ tr = some c) :
    self.Filled config c.shared.1 := by
  apply run_shared (I := fun s => self.Filled config s.1) _ hfilled h
  intro l s hs
  -- A refresh keeps the latest usable answer, any other section keeps the cache
  obtain heq | ⟨-, -, -, -, -, heq⟩ := exec_cache l s <;> rw [heq]
  · exact hs
  · exact CacheHoldsLatest.update hs

/-- The requests become more. -/
theorem run_providerCalls (h : (self.authentication config).run tokens c₀ tr = some c) :
    c₀.shared.1.providerCalls ≤ c.shared.1.providerCalls :=
  run_shared (I := fun s => c₀.shared.1.providerCalls ≤ s.1.providerCalls)
    (fun l s hs => Nat.le_trans hs (exec_providerCalls l s)) (Nat.le_refl _) h

/-- The locations of a request belong to its token. -/
theorem run_of {s : State ω}
    (h : (self.authentication config).run tokens (.initial s) tr = some c) :
    ∀ i l, c.phase i = .running l → l.Of self config (tokens i) := by
  have hstart : ∀ token, ((self.authentication config).start token).Of self config token :=
    fun _ => rfl
  exact run_running hstart goesOn_of (fun _ => rfl) h

/-- What an accepted token was checked with was in the cache between the call and the return of its
    request. -/
theorem accepted_was_cached {s : State ω}
    (h : (self.authentication config).run tokens (.initial s) tr = some c) {i : ι} {t : TokenImpl}
    (hi : (c.phase i).outcome? = some (.accepted t)) :
    ∃ tr' m encStr header w w', tr' <+: tr ∧
      (self.authentication config).run tokens (.initial s) tr' = some m ∧
      m.phase i = .running (.check encStr header t.key) ∧
      m.shared.1.data[header.kid.getD ""]? = some t.key ∧ t.ec.isSet = false ∧
      self.jwt.decode ⟨encStr, [cStr header.alg], t.key, config.issuer, self.audience, true⟩ w =
        (.ok (t.jwtObject, t.ec), w') := by
  -- The section that accepted the token
  obtain hidle | hrunning | ⟨tr₁, m₁, l₁, hpre₁, hm₁, hl₁, -, hx₁⟩ := phase_cases (fun _ => rfl) h i
  · rw [hidle] at hi
    cases hi
  · rw [hrunning] at hi
    cases hi
  obtain ⟨encStr, header, w, rfl, hkey, hec, hdecode⟩ := exec_accepted (hx₁ _ hi)
  -- The section that gave the key
  obtain hidle | hrunning | ⟨tr₂, m₂, l₂, hpre₂, hm₂, hl₂, hx₂, -⟩ :=
    phase_cases (fun _ => rfl) hm₁ i
  · rw [hidle] at hl₁
    cases hl₁
  · rw [hrunning] at hl₁
    cases hl₁
  have hcheck := hx₂ _ hl₁
  have hcached := exec_to_check (run_of hm₂ i l₂ hl₂) hcheck hkey
  -- The section itself is the last step of the prefix that is looked for
  have hstep : (self.authentication config).step tokens m₂ (.exec i) =
      some ⟨((self.authentication config).exec l₂ m₂.shared).2, Function.update m₂.phase i
        (.after ((self.authentication config).exec l₂ m₂.shared).1)⟩ := by
    simp only [Proc.step, hl₂]
  refine ⟨tr₂ ++ [.exec i], _, encStr, header, m₁.shared.2, w, ?_, run_concat.mpr ⟨m₂, hm₂, hstep⟩,
    ?_, hcached, hec, hdecode⟩
  · exact hpre₂.trans ((List.prefix_append _ _).trans hpre₁)
  · simp only [Function.update_self, hcheck, Phase.after]

end Runs

/-! ## Accepted tokens -/

/-- What the acceptance of a token rests on: it has the algorithm RS256 and the id of a key; with
    this cache, the latest usable answer of the JWKS is the `n`-th one; this answer has a
    signature key with this id; and cpp-jwt, called with this key and this algorithm alone,
    reports no error. -/
inductive Trusted (self : SecuredService ω) (config : OpenID.Configuration) (token : String)
    (cache : RestJwksRSAKeyProvider.State) (t : TokenImpl) (n : Nat) : Prop
  | intro {encStr jwks kid : String} {headerJson : Json} {headerEc : ErrorCode}
      {ks : List RS256Key} {k : RS256Key} {w w' : ω}
      (starts : token = "Bearer " ++ encStr)
      (decodesHeader : self.jwt.decodeHeader (headerText encStr) = .ok (headerJson, headerEc))
      (headerOk : headerEc.isSet = false)
      (hasAlg : headerJson.stringAt? "alg" = some "RS256")
      (hasKid : headerJson.stringAt? "kid" = some kid)
      (latest : (self.keyProvider config).LatestUsable cache.providerCalls n cache.data)
      (answered : requestJWKS (self.jwks config.jwksUri n) = .ok jwks)
      (parses : parseRS256Keys self.json jwks = .ok ks)
      (hasKey : k ∈ ks)
      (keyId : k.id = kid)
      (pem : self.toPEMPubKey k = .ok t.key)
      (checks : self.jwt.decode ⟨encStr, ["RS256"], t.key, config.issuer, self.audience, true⟩ w =
        (.ok (t.jwtObject, t.ec), w'))
      (noError : t.ec.isSet = false) :
      Trusted self config token cache t n

theorem Trusted.latestUsable {token : String} {cache : RestJwksRSAKeyProvider.State} {t : TokenImpl}
    {n : Nat} (h : self.Trusted config token cache t n) :
    (self.keyProvider config).LatestUsable cache.providerCalls n cache.data := by
  obtain ⟨-, -, -, -, -, hlatest, -⟩ := h
  exact hlatest

section Runs

variable {ι : Type} [DecidableEq ι] {tokens : ι → String}
  {c : Config ι AuthLoc (State ω) Verdict} {tr : List (Event ι)}
  {cache : RestJwksRSAKeyProvider.State} {w : ω}

/-- The moment at which the key was in the cache, and the answer that it comes from. -/
theorem trusted_of_accepted (hstart : self.start = .ok (config, cache))
    (h : (self.authentication config).run tokens (.initial (cache, w)) tr = some c) {i : ι}
    {t : TokenImpl} (hi : (c.phase i).outcome? = some (.accepted t)) :
    ∃ tr' m n, tr' <+: tr ∧
      (self.authentication config).run tokens (.initial (cache, w)) tr' = some m ∧
      (∃ l, m.phase i = .running l) ∧ self.Trusted config (tokens i) m.shared.1 t n := by
  obtain ⟨tr', m, encStr, header, w₁, w₂, hpre, hm, hrunning, hcached, hec, hdecode⟩ :=
    accepted_was_cached h hi
  have hfilled : self.Filled config (cache, w).1 := (start_filled hstart).1
  have hholds : self.Filled config m.shared.1 := run_filled hfilled hm
  -- The token is that of the location
  have hread : self.readHeader config (tokens i) = .inr (encStr, header) := run_of hm i _ hrunning
  obtain ⟨hstarts, hheader, halg⟩ := readHeader_eq_inr hread
  obtain ⟨headerJson, headerEc, hjson, hheaderEc, hhasAlg, -, hkid⟩ :=
    extractHeader_eq_some.mp hheader
  rw [halg] at hhasAlg hdecode
  -- Without `kid` it would be the empty key id
  have hhasKid : headerJson.stringAt? "kid" = some (header.kid.getD "") := by
    cases hnone : header.kid with
    | some kid => rw [hkid, hnone, Option.getD_some]
    | none =>
      -- No cache has a key with the empty id
      rw [hnone, Option.getD_none, hholds.empty_keyId] at hcached
      cases hcached
  -- Errors are thrown on, so there is a latest usable answer
  obtain ⟨n, hlatest⟩ | ⟨hthrow, -, -⟩ := hholds
  · obtain ⟨jwks, ks, k, hjwks, hparse, hk, hid, hpem⟩ := hlatest.2.1.getElem? hcached
    exact ⟨tr', m, n, hpre, hm, ⟨_, hrunning⟩,
      .intro hstarts hjson hheaderEc hhasAlg hhasKid hlatest hjwks hparse hk hid hpem hdecode hec⟩
  · cases hthrow

/-- **Accepted tokens are trusted.** However the JWKS answers, whatever tokens come in and however
    the requests are interleaved: every token that is accepted has the algorithm RS256 and the id
    of a key, and was checked by cpp-jwt with this algorithm alone and the signature key that,
    at a moment between the call and the return of the request, the latest usable answer of the
    JWKS had under this id. -/
theorem accepted_trusted (hstart : self.start = .ok (config, cache))
    (h : (self.authentication config).run tokens (.initial (cache, w)) tr = some c) :
    ∀ i t, (c.phase i).outcome? = some (.accepted t) →
      ∃ tr' m n, tr' <+: tr ∧
        (self.authentication config).run tokens (.initial (cache, w)) tr' = some m ∧
        (∃ l, m.phase i = .running l) ∧ self.Trusted config (tokens i) m.shared.1 t n :=
  fun _ _ hi => trusted_of_accepted hstart h hi

/-- A token of RS256 with the key id of the tests. -/
def testToken : String :=
  "Bearer eyJhbGciOiJSUzI1NiIsInR5cCI6IkpXVCIsImtpZCI6ImtleV8wIn0.e30.c2ln"

/-- A token with a key id that the JWKS does not have. -/
def unknownToken : String :=
  "Bearer eyJhbGciOiJSUzI1NiIsInR5cCI6IkpXVCIsImtpZCI6ImtleV8xIn0.e30.c2ln"

/-- The cpp-jwt of the tests, which finds no error in a token with one of these headers. -/
def testJwt : JwtLib Unit where
  decodeHeader text :=
    if text = "eyJhbGciOiJSUzI1NiIsInR5cCI6IkpXVCIsImtpZCI6ImtleV8wIn0" then
      .ok (.ofMembers [("alg", .string "RS256"), ("typ", .string "JWT"), ("kid", .string "key_0")],
        ⟨0, .other 0, ""⟩)
    else if text = "eyJhbGciOiJSUzI1NiIsInR5cCI6IkpXVCIsImtpZCI6ImtleV8xIn0" then
      .ok (.ofMembers [("alg", .string "RS256"), ("typ", .string "JWT"), ("kid", .string "key_1")],
        ⟨0, .other 0, ""⟩)
    else .ok (.null, ⟨1, .decodeErr, "json parse error"⟩)
  decode _ w := (.ok (⟨.ofMembers []⟩, ⟨0, .other 0, ""⟩), w)

/-- The JSON library on the configuration and the JWKS of the tests. -/
def serviceJson : NlohmannJson where
  __ := testJson
  parse text :=
    if text = testConfiguration then .ok testConfigurationJson else testJson.parse text

/-- A service whose JWKS has one key. -/
def testService : SecuredService Unit where
  json := serviceJson
  toPEMPubKey _ := .ok testPEM
  jwt := testJwt
  openid := .ok (.response 200 testConfiguration)
  jwks _ _ := .ok (.response 200 testJwks)
  audience := "the_audience"
  requiredClaims := []

/-- It starts. -/
theorem test_start : ∃ config, testService.start = .ok (config, testState) := by
  -- The configuration is what the JSON library of the tests reads
  have hparse : serviceJson.parse testConfiguration = .ok testConfigurationJson := by
    simp only [serviceJson, if_true]
  have hurl : OpenID.createFromUrl serviceJson testService.openid =
      OpenID.createFromJson serviceJson testConfiguration := rfl
  have hconfig : ∃ config, OpenID.createFromUrl testService.json testService.openid =
      .ok config := by
    rw [show testService.json = serviceJson from rfl, hurl, OpenID.createFromJson, hparse]
    exact ⟨_, rfl⟩
  obtain ⟨config, hconfig⟩ := hconfig
  refine ⟨config, ?_⟩
  have hkeys : (testService.keyProvider config).construct = .ok testState := rfl
  simp only [start, hconfig, hkeys, bind, Except.bind, pure, Except.pure]

/-- A token without its prefix. -/
def encStrOf (token : String) : String := substr token "Bearer ".length

/-- A header with a key id. -/
def testHeader (kid : String) : JWTHeader := ⟨"RS256", some "JWT", some kid⟩

/-- The token when it is decoded. -/
def testAccepted : TokenImpl := ⟨testPEM, ⟨.ofMembers []⟩, ⟨0, .other 0, ""⟩⟩

/-- The headers are read. -/
theorem test_readHeader :
    testService.readHeader config testToken = .inr (encStrOf testToken, testHeader "key_0") ∧
      testService.readHeader config unknownToken =
        .inr (encStrOf unknownToken, testHeader "key_1") :=
  ⟨readHeader_of_header (by decide) rfl rfl rfl, readHeader_of_header (by decide) rfl rfl rfl⟩

/-- The token is checked with the key of the tests. -/
theorem test_checkToken :
    testService.checkToken config (encStrOf testToken) (testHeader "key_0") testPEM () =
      (.accepted testAccepted, ()) := by
  have hkey : testPEM ≠ "" := by decide
  unfold checkToken
  rw [if_neg hkey]
  rfl

/-- A request with the token that no other one gets between. -/
def testTrace {ι : Type} (i : ι) : List (Event ι) :=
  [.call i, .exec i, .exec i, .exec i, .ret i]

/-- What it does. -/
theorem test_request {ι : Type} [DecidableEq ι] {tokens : ι → String}
    {phase : ι → Phase AuthLoc Verdict} {i : ι} (htoken : tokens i = testToken)
    (hi : phase i = .idle) :
    (testService.authentication config).run tokens ⟨(testState, ()), phase⟩ (testTrace i) =
      some ⟨(testState, ()), Function.update phase i (.returned (.accepted testAccepted))⟩ := by
  -- The header is read, its key is in the cache, and the token is checked with it
  have hstart : (testService.authentication config).start testToken = .read testToken := rfl
  have hread : (testService.authentication config).exec (.read testToken) (testState, ()) =
      (.inl (.lookup (encStrOf testToken) (testHeader "key_0") (.shared "key_0")),
        (testState, ())) := by
    rw [exec_read, test_readHeader.1]
    rfl
  have hlookup : (testService.authentication config).exec
      (.lookup (encStrOf testToken) (testHeader "key_0") (.shared "key_0")) (testState, ()) =
        (.inl (.check (encStrOf testToken) (testHeader "key_0") testPEM), (testState, ())) := by
    have hdata : testState.data["key_0"]? = some testPEM := rfl
    rw [exec_lookup, lookup_exec_hit hdata]
  have hcheck : (testService.authentication config).exec
      (.check (encStrOf testToken) (testHeader "key_0") testPEM) (testState, ()) =
        (.inr (.accepted testAccepted), (testState, ())) := by
    rw [exec_check, test_checkToken]
  simp only [testTrace, Proc.run, Proc.step, hi, htoken, hstart, hread, hlookup, hcheck,
    Option.bind_some, Function.update_self, Function.update_idem, Phase.after]

/-- Two requests one after the other. -/
theorem test_requests :
    (testService.authentication config).run (fun _ : Bool => testToken) (.initial (testState, ()))
        (testTrace true ++ testTrace false) =
      some ⟨(testState, ()), fun _ => .returned (.accepted testAccepted)⟩ := by
  have hfirst : (testService.authentication config).run (fun _ : Bool => testToken)
      (.initial (testState, ())) (testTrace true) = _ := test_request rfl rfl
  rw [run_append, hfirst, Option.bind_some, test_request rfl rfl]
  congr 2
  funext i
  cases i <;> rfl

/-- Both tokens are accepted with a key of the JWKS. -/
theorem accepted_trusted_test :
    ∃ config, testService.start = .ok (config, testState) ∧
      ∀ i, ∃ tr' m n, tr' <+: testTrace true ++ testTrace false ∧
        (testService.authentication config).run (fun _ : Bool => testToken)
          (.initial (testState, ())) tr' = some m ∧
        (∃ l, m.phase i = .running l) ∧
        testService.Trusted config testToken m.shared.1 testAccepted n := by
  obtain ⟨config, hstart⟩ := test_start
  exact ⟨config, hstart, fun i => accepted_trusted hstart test_requests i testAccepted rfl⟩

/-- **Keys are never older.** Once the cache has had the keys of an answer of the JWKS, the token of
    every request that is made later and accepted was checked with a key of that answer or of a
    later one: a key that was replaced is not used again unless it is answered again. -/
theorem keys_never_older (hstart : self.start = .ok (config, cache)) {tr₁ tr₂ : List (Event ι)}
    {m : Config ι AuthLoc (State ω) Verdict}
    (hm : (self.authentication config).run tokens (.initial (cache, w)) tr₁ = some m)
    (h : (self.authentication config).run tokens (.initial (cache, w)) (tr₁ ++ tr₂) = some c)
    {n : Nat} {keys : KeyMap}
    (hn : (self.keyProvider config).LatestUsable m.shared.1.providerCalls n keys) {i : ι}
    (hidle : m.phase i = .idle) {t : TokenImpl}
    (hi : (c.phase i).outcome? = some (.accepted t)) :
    ∃ tr' m' n', tr₁ <+: tr' ∧ tr' <+: tr₁ ++ tr₂ ∧
      (self.authentication config).run tokens (.initial (cache, w)) tr' = some m' ∧
      self.Trusted config (tokens i) m'.shared.1 t n' ∧ n ≤ n' := by
  obtain ⟨tr', m', n', hpre, hm', ⟨l, hl⟩, htrusted⟩ := trusted_of_accepted hstart h hi
  -- One of the two is a prefix of the other
  have hafter : tr₁ <+: tr' := by
    obtain hle | hle := List.prefix_or_prefix_of_prefix (List.prefix_append tr₁ tr₂) hpre
    · exact hle
    · -- The request would have been made before
      have hcall : .call i ∈ tr' := (call_mem_iff (fun _ => rfl) hm' i).mpr (by rw [hl]; simp)
      exact absurd hidle ((call_mem_iff (fun _ => rfl) hm i).mp (hle.subset hcall))
  refine ⟨tr', m', n', hafter, hpre, hm', htrusted, ?_⟩
  -- After `tr₁` the number of the latest usable answer can only grow
  obtain ⟨tr'', rfl⟩ := hafter
  rw [run_append, hm] at hm'
  exact hn.mono htrusted.latestUsable (run_providerCalls hm')

/-- The second token is not checked with an older key than the first could be. -/
theorem keys_never_older_test :
    ∃ config m n keys, testService.start = .ok (config, testState) ∧
      (testService.authentication config).run (fun _ : Bool => testToken)
        (.initial (testState, ())) (testTrace true) = some m ∧
      (testService.keyProvider config).LatestUsable m.shared.1.providerCalls n keys ∧
      ∃ tr' m' n', testTrace true <+: tr' ∧ tr' <+: testTrace true ++ testTrace false ∧
        (testService.authentication config).run (fun _ : Bool => testToken)
          (.initial (testState, ())) tr' = some m' ∧
        testService.Trusted config testToken m'.shared.1 testAccepted n' ∧ n ≤ n' := by
  obtain ⟨config, hstart⟩ := test_start
  have hfirst : (testService.authentication config).run (fun _ : Bool => testToken)
      (.initial (testState, ())) (testTrace true) = _ := test_request rfl rfl
  obtain ⟨n, hlatest⟩ | ⟨hthrow, -, -⟩ := (start_filled hstart).1
  · exact ⟨config, _, n, testState.data, hstart, hfirst, hlatest,
      keys_never_older hstart hfirst test_requests hlatest (i := false) rfl rfl⟩
  · cases hthrow

end Runs

/-! ## Requests of the JWKS -/

/-- A section in which the JWKS is requested: the one under the exclusive lock, with a key id that
    is not in the cache. -/
def fetches {ι : Type} (x : Section ι AuthLoc (State ω)) : Bool :=
  match x.loc with
  | .lookup _ _ (.exclusive keyId) => x.before.1.data[keyId]?.isNone
  | _ => false

/-- The sections of a trace in which the JWKS is requested. -/
abbrev fetchesIn (self : SecuredService ω) (config : OpenID.Configuration) {ι : Type}
    [DecidableEq ι] (tokens : ι → String) (s : State ω) (tr : List (Event ι)) :
    List (Section ι AuthLoc (State ω)) :=
  ((self.authentication config).sections tokens (.initial s) tr).filter fetches

/-- What a section does to the cache, by whether the JWKS is requested in it. -/
theorem exec_fetches {ι : Type} (x : Section ι AuthLoc (State ω)) :
    ((self.authentication config).exec x.loc x.before).2.1.providerCalls =
        x.before.1.providerCalls + (if fetches x then 1 else 0) ∧
      (fetches x = false →
        ((self.authentication config).exec x.loc x.before).2.1 = x.before.1) := by
  obtain ⟨i, l, s⟩ := x
  dsimp only
  cases hx : fetches (⟨i, l, s⟩ : Section ι AuthLoc (State ω)) with
  | false =>
    -- The key is there, or it is another section: no refresh
    obtain heq | ⟨encStr, header, keyId, rfl, hnone, -⟩ := exec_cache l s
    · rw [heq]
      exact ⟨rfl, fun _ => rfl⟩
    · simp [fetches, hnone] at hx
  | true =>
    obtain ⟨encStr, header, keyId, rfl, hnone⟩ : ∃ encStr header keyId,
        l = .lookup encStr header (.exclusive keyId) ∧ s.1.data[keyId]? = none := by
      unfold fetches at hx
      split at hx
      · rename_i encStr header keyId hl
        dsimp only at hl
        exact ⟨encStr, header, keyId, hl, Option.isNone_iff_eq_none.mp hx⟩
      · cases hx
    -- The key is missing under the exclusive lock, so there is one refresh
    rw [exec_lookup, lookup_exec_exclusive]
    obtain ⟨pem, hpem, -⟩ | ⟨-, hstate, -⟩ :=
      (self.keyProvider config).exclusiveLookup_spec keyId s.1
    · rw [hnone] at hpem
      cases hpem
    · dsimp only
      rw [hstate]
      exact ⟨((self.keyProvider config).updateKeyCache_spec s.1).1, fun h => by cases h⟩

section Runs

variable {ι : Type} [DecidableEq ι] {tokens : ι → String}
  {c : Config ι AuthLoc (State ω) Verdict} {tr : List (Event ι)} {s : State ω}

/-- A request whose lookup has ended. -/
def LookedUp : Phase AuthLoc Verdict → Prop
  | .idle => False
  | .running (.check _ _ _) => True
  | .running _ => False
  | _ => True

/-- The section under the exclusive lock is the last one of a lookup. -/
theorem lookedUp_exclusive (encStr : String) (header : JWTHeader) (keyId : String) (s : State ω) :
    LookedUp (.after
      ((self.authentication config).exec (.lookup encStr header (.exclusive keyId)) s).1) := by
  rw [exec_lookup, lookup_exec_exclusive]
  cases ((self.keyProvider config).exclusiveLookup keyId s.1).1 <;> trivial

/-- Each request of a run requests the JWKS at most once. -/
theorem fetches_once
    (h : (self.authentication config).run tokens (.initial s) tr = some c) :
    ((self.fetchesIn config tokens s tr).map Section.call).Nodup := by
  suffices hs : ((self.fetchesIn config tokens s tr).map Section.call).Nodup ∧
      ∀ i ∈ (self.fetchesIn config tokens s tr).map Section.call, LookedUp (c.phase i) from hs.1
  -- With `LookedUp` the request of a new section is none of those before
  apply run_sections_induction (P := fun _ xs c => ((xs.filter fetches).map Section.call).Nodup ∧
    ∀ i ∈ (xs.filter fetches).map Section.call, LookedUp (c.phase i)) _ _ _ _ h
  · exact ⟨List.nodup_nil, fun i hi => absurd hi List.not_mem_nil⟩
  · intro tr m i _ ⟨hnodup, hlooked⟩ hidle
    refine ⟨hnodup, fun j hj => ?_⟩
    have hj' := hlooked j hj
    by_cases hji : j = i
    · rw [hji, hidle] at hj'
      cases hj'
    · simpa only [Function.update_of_ne hji] using hj'
  · intro tr m i l _ ⟨hnodup, hlooked⟩ hl
    -- Others are where they were
    have hothers : ∀ j ∈ (((self.authentication config).sections tokens (.initial s) tr).filter
        fetches).map Section.call, j ≠ i → LookedUp (Function.update m.phase i
          (.after ((self.authentication config).exec l m.shared).1) j) := by
      intro j hj hji
      rw [Function.update_of_ne hji]
      exact hlooked j hj
    have hend : ∀ encStr header key, l = .check encStr header key →
        LookedUp (.after ((self.authentication config).exec l m.shared).1) := by
      rintro encStr header key rfl
      trivial
    rw [List.filter_append, List.map_append]
    cases hx : fetches (⟨i, l, m.shared⟩ : Section ι AuthLoc (State ω)) with
    | false =>
      -- No new section is counted; the lookup of this request may have ended now
      simp only [List.filter_cons, hx, Bool.false_eq_true, if_false, List.filter_nil, List.map_nil,
        List.append_nil]
      refine ⟨hnodup, fun j hj => ?_⟩
      by_cases hji : j = i
      · subst hji
        have hj' := hlooked j hj
        rw [hl] at hj'
        rw [Function.update_self]
        cases l with
        | check encStr header key => exact hend encStr header key rfl
        | _ => cases hj'
      · exact hothers j hj hji
    | true =>
      simp only [List.filter_cons, hx, if_true, List.filter_nil, List.map_cons, List.map_nil]
      -- The request has not requested it before
      have hfresh : i ∉ (((self.authentication config).sections tokens (.initial s) tr).filter
          fetches).map Section.call := by
        intro hi
        have hi' := hlooked i hi
        rw [hl] at hi'
        cases l with
        | check encStr header key => simp [fetches] at hx
        | _ => cases hi'
      -- The section is the last one of the lookup, so the request stays looked up
      obtain ⟨encStr, header, keyId, rfl⟩ : ∃ encStr header keyId,
          l = .lookup encStr header (.exclusive keyId) := by
        unfold fetches at hx
        split at hx
        · rename_i encStr header keyId hl'
          exact ⟨encStr, header, keyId, hl'⟩
        · cases hx
      refine ⟨?_, fun j hj => ?_⟩
      · rw [List.nodup_append]
        refine ⟨hnodup, by simp, ?_⟩
        rintro a ha b hb rfl
        rw [List.mem_singleton] at hb
        exact hfresh (hb ▸ ha)
      · by_cases hji : j = i
        · subst hji
          rw [Function.update_self]
          exact lookedUp_exclusive encStr header keyId m.shared
        · rw [List.mem_append] at hj
          obtain hj | hj := hj
          · exact hothers j hj hji
          · exact absurd (List.mem_singleton.mp hj) hji
  · intro tr m i r _ ⟨hnodup, hlooked⟩ hr
    refine ⟨hnodup, fun j hj => ?_⟩
    by_cases hji : j = i
    · subst hji
      simp only [Function.update_self]
      trivial
    · simpa only [Function.update_of_ne hji] using hlooked j hj

/-- The requests of the JWKS in a run, and what it leaves without them. -/
theorem run_fetches
    (h : (self.authentication config).run tokens (.initial s) tr = some c) :
    c.shared.1.providerCalls = s.1.providerCalls + (self.fetchesIn config tokens s tr).length ∧
      (∀ x ∈ self.fetchesIn config tokens s tr, ∃ encStr header,
        self.readHeader config (tokens x.call) = .inr (encStr, header) ∧
        x.before.1.data[header.kid.getD ""]? = none) ∧
      (self.fetchesIn config tokens s tr = [] → c.shared.1 = s.1) := by
  have hstart : ∀ token, ((self.authentication config).start token).Of self config token :=
    fun _ => rfl
  -- By the sections of the run: each one is counted, and its location says what it asks for
  apply run_sections (J := AuthLoc.Of self config) hstart goesOn_of (fun _ => rfl)
    (P := fun xs _ s' => s'.1.providerCalls = s.1.providerCalls + (xs.filter fetches).length ∧
      (∀ x ∈ xs.filter fetches, ∃ encStr header,
        self.readHeader config (tokens x.call) = .inr (encStr, header) ∧
        x.before.1.data[header.kid.getD ""]? = none) ∧
      (xs.filter fetches = [] → s'.1 = s.1))
    ⟨rfl, fun x hx => absurd hx List.not_mem_nil, fun _ => rfl⟩ _ h
  intro xs o i l s' ⟨hcalls, hasked, hkept⟩ _ hof
  obtain ⟨hexec, hsame⟩ := @exec_fetches ω self config ι ⟨i, l, s'⟩
  dsimp only at hexec hsame
  rw [List.filter_append]
  cases hx : fetches (⟨i, l, s'⟩ : Section ι AuthLoc (State ω)) with
  | false =>
    rw [hsame hx]
    simpa only [List.filter_cons, hx, Bool.false_eq_true, if_false, List.filter_nil,
      List.append_nil] using ⟨hcalls, hasked, hkept⟩
  | true =>
    simp only [hx, if_true] at hexec
    simp only [List.filter_cons, hx, if_true, List.filter_nil]
    refine ⟨?_, ?_, fun hnil => absurd hnil (by simp)⟩
    · rw [hexec, hcalls, List.length_append, List.length_singleton, Nat.add_assoc]
    · intro x hmem
      obtain hmem | hmem := List.mem_append.mp hmem
      · exact hasked x hmem
      · rw [List.mem_singleton.mp hmem]
        -- The location is that of the token, so the key id is the one of its header
        unfold fetches at hx
        split at hx
        · rename_i encStr header keyId hl
          dsimp only at hl hx
          subst hl
          obtain ⟨hread, hkeyId⟩ := hof
          rw [LookupLoc.keyId] at hkeyId
          subst hkeyId
          exact ⟨encStr, header, hread, Option.isNone_iff_eq_none.mp hx⟩
        · cases hx

/-- **One request for each key that is missing.** In every run the JWKS is requested once at the start
    and once in each section under the exclusive lock that does not find its key; each request of
    the service has at most one such section, and only if the header of its token asks for this
    key, whatever else is wrong with the token; and without such sections the cache stays as it
    was, whatever the JWKS would answer. -/
theorem fetches_eq {cache : RestJwksRSAKeyProvider.State} {w : ω}
    (hstart : self.start = .ok (config, cache))
    (h : (self.authentication config).run tokens (.initial (cache, w)) tr = some c) :
    c.shared.1.providerCalls = 1 + (self.fetchesIn config tokens (cache, w) tr).length ∧
      ((self.fetchesIn config tokens (cache, w) tr).map Section.call).Nodup ∧
      (∀ x ∈ self.fetchesIn config tokens (cache, w) tr, ∃ encStr header,
        self.readHeader config (tokens x.call) = .inr (encStr, header) ∧
        x.before.1.data[header.kid.getD ""]? = none) ∧
      (self.fetchesIn config tokens (cache, w) tr = [] → c.shared.1 = cache) := by
  have hcalls := run_fetches h
  rw [(start_filled hstart).2] at hcalls
  exact ⟨hcalls.1, fetches_once h, hcalls.2⟩

/-- The token of the tests, and the one with an unknown key id. -/
def testTokens : Bool → String
  | true => testToken
  | false => unknownToken

/-- A request with each of them; the second one refreshes the keys. -/
def unknownTrace : List (Event Bool) :=
  testTrace true ++ [.call false, .exec false, .exec false, .exec false, .exec false, .ret false]

/-- Where that leads. -/
def unknownState : RestJwksRSAKeyProvider.State := { testState with providerCalls := 2 }

/-- What becomes of the tokens. -/
def testVerdict : Bool → Verdict
  | true => .accepted testAccepted
  | false => .rejected "key not found"

/-- What it does. -/
theorem test_unknown :
    (testService.authentication config).run testTokens (.initial (testState, ())) unknownTrace =
      some ⟨(unknownState, ()), fun i => .returned (testVerdict i)⟩ := by
  -- The request with the known token leaves the cache as it was
  have hfirst : (testService.authentication config).run testTokens (.initial (testState, ()))
      (testTrace true) = _ := test_request rfl rfl
  have hidle : Function.update (fun _ : Bool => Phase.idle) true
      (.returned (.accepted testAccepted)) false = (.idle : Phase AuthLoc Verdict) := rfl
  have hstart : (testService.authentication config).start (testTokens false) =
      .read unknownToken := rfl
  have hread : (testService.authentication config).exec (.read unknownToken) (testState, ()) =
      (.inl (.lookup (encStrOf unknownToken) (testHeader "key_1") (.shared "key_1")),
        (testState, ())) := by
    rw [exec_read, test_readHeader.2]
    rfl
  have hlookup : (testService.authentication config).exec
      (.lookup (encStrOf unknownToken) (testHeader "key_1") (.shared "key_1")) (testState, ()) =
        (.inl (.lookup (encStrOf unknownToken) (testHeader "key_1") (.exclusive "key_1")),
          (testState, ())) := by
    have hdata : testState.data["key_1"]? = none := rfl
    rw [exec_lookup, lookup_exec_miss hdata]
  -- The keys are the same again
  have hrefresh : (testService.authentication config).exec
      (.lookup (encStrOf unknownToken) (testHeader "key_1") (.exclusive "key_1")) (testState, ()) =
        (.inl (.check (encStrOf unknownToken) (testHeader "key_1") ""), (unknownState, ())) := by
    have hkeys : (testService.keyProvider config).exclusiveLookup "key_1" testState =
        (.ok "", unknownState) := rfl
    rw [exec_lookup, lookup_exec_exclusive, hkeys]
  have hcheck : (testService.authentication config).exec
      (.check (encStrOf unknownToken) (testHeader "key_1") "") (unknownState, ()) =
        (.inr (.rejected "key not found"), (unknownState, ())) := rfl
  rw [unknownTrace, run_append, hfirst, Option.bind_some]
  simp only [Proc.run, Proc.step, hidle, hstart, hread, hlookup, hrefresh, hcheck,
    Option.bind_some, Function.update_self, Function.update_idem, Phase.after]
  congr 2
  funext i
  cases i <;> rfl

/-- The JWKS is requested again for the second request. -/
theorem fetches_eq_test :
    ∃ config, testService.start = .ok (config, testState) ∧
      (testService.fetchesIn config testTokens (testState, ()) unknownTrace).length = 1 ∧
      ∀ x ∈ testService.fetchesIn config testTokens (testState, ()) unknownTrace,
        ∃ encStr header, testService.readHeader config (testTokens x.call) = .inr (encStr, header) ∧
          x.before.1.data[header.kid.getD ""]? = none := by
  obtain ⟨config, hstart⟩ := test_start
  obtain ⟨hcalls, -, hasked, -⟩ := fetches_eq hstart (@test_unknown config)
  refine ⟨config, hstart, ?_, hasked⟩
  have htwo : unknownState.providerCalls = 2 := rfl
  dsimp only at hcalls
  omega

end Runs

end SecuredService

end SapperBricks
