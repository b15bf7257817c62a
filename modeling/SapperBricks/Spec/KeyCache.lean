import SapperBricks.ForStd.Linearizable
import SapperBricks.Native.KeyProvider

/-!
# Correctness of the shared key cache

What `RestJwksRSAKeyProvider` promises to any number of threads: a lookup behaves as if it
were made at one instant (`lookup_linearizable`), and the cache always holds exactly the
keys of one response of the JWKS provider, the latest usable one (`cache_holds_latest`).
-/

namespace SapperBricks

open Interleaving

/-! ## The keys of one response -/

/-- Every PEM text in the map of a response is that of an accepted key with its id. -/
theorem insertPubKeysPEM_getElem? {toPEM : RS256Key → Except Exn String}
    {ks : List RS256Key} {m m' : KeyMap} {id pem : String}
    (h : insertPubKeysPEM toPEM ks m = .ok m') (hpem : m'[id]? = some pem) :
    m[id]? = some pem ∨ ∃ k ∈ ks, k.id = id ∧ toPEM k = .ok pem := by
  induction ks generalizing m with
  | nil =>
    cases h
    exact .inl hpem
  | cons k ks ih =>
    simp only [insertPubKeysPEM] at h
    split at h
    · exact nomatch h
    · rename_i p hp
      obtain hm | ⟨k', hk', hid⟩ := ih h
      · rw [Std.ExtTreeMap.getElem?_insert] at hm
        split at hm
        · rename_i heq
          cases hm
          exact .inr ⟨k, List.mem_cons_self, Std.LawfulEqCmp.eq_of_compare heq, hp⟩
        · exact .inl hm
      · exact .inr ⟨k', List.mem_cons_of_mem _ hk', hid⟩

/-- Converting keys adds their ids to a map. -/
theorem insertPubKeysPEM_mem {toPEM : RS256Key → Except Exn String}
    {ks : List RS256Key} {m m' : KeyMap} {id : String}
    (h : insertPubKeysPEM toPEM ks m = .ok m') :
    id ∈ m' ↔ id ∈ m ∨ id ∈ ks.map RS256Key.id := by
  induction ks generalizing m with
  | nil =>
    cases h
    simp
  | cons k ks ih =>
    simp only [insertPubKeysPEM] at h
    split at h
    · exact nomatch h
    · rw [ih h, Std.ExtTreeMap.mem_insert, Std.LawfulEqCmp.compare_eq_iff_eq, List.map_cons,
        List.mem_cons]
      grind

/-- Converting keys never empties a map. -/
theorem insertPubKeysPEM_ne_empty {toPEM : RS256Key → Except Exn String}
    {ks : List RS256Key} {m m' : KeyMap} (h : insertPubKeysPEM toPEM ks m = .ok m')
    (hm : m ≠ ∅ ∨ ks ≠ []) : m' ≠ ∅ := by
  induction ks generalizing m with
  | nil =>
    cases h
    exact hm.resolve_right (fun hne => hne rfl)
  | cons k ks ih =>
    simp only [insertPubKeysPEM] at h
    split at h
    · exact nomatch h
    · exact ih h (.inl Std.ExtTreeMap.insert_ne_empty)

namespace RestJwksRSAKeyProvider

/-- A JWKS is usable: it parses, it has an accepted key, and all its accepted keys `ks`
    convert to PEM, which gives the map `keys`. -/
structure UsableJwks (provider : RestJwksRSAKeyProvider) (jwks : String)
    (ks : List RS256Key) (keys : KeyMap) : Prop where
  accepted : parseRS256Keys provider.json jwks = .ok ks
  nonempty : ks ≠ []
  converted : extractPubKeysPEM provider.json provider.toPEMPubKey jwks = .ok keys

variable (self : RestJwksRSAKeyProvider)

/-- The response to the `n`-th call of the provider is a usable JWKS with these keys. -/
def Usable (n : Nat) (keys : KeyMap) : Prop :=
  ∃ jwks ks, self.jwksProvider n = .ok jwks ∧ self.UsableJwks jwks ks keys

/-- Of the first `calls` responses, the `n`-th is the latest usable one. -/
def LatestUsable (calls n : Nat) (keys : KeyMap) : Prop :=
  n < calls ∧ self.Usable n keys ∧ ∀ m keys', n < m → m < calls → ¬ self.Usable m keys'

/-- The cache holds the keys of the latest usable response; or it is empty, there was none,
    and errors are not thrown on. -/
def CacheHoldsLatest (s : State) : Prop :=
  (∃ n, self.LatestUsable s.providerCalls n s.data) ∨
  (self.throwOnError = false ∧ (∀ n keys, n < s.providerCalls → ¬ self.Usable n keys) ∧
    s.data = ∅)

variable {self}

/-- The keys of a usable JWKS come from converting its accepted keys. -/
theorem UsableJwks.insert_eq {jwks : String} {ks : List RS256Key} {keys : KeyMap}
    (h : self.UsableJwks jwks ks keys) : insertPubKeysPEM self.toPEMPubKey ks ∅ = .ok keys := by
  have hconv := h.converted
  simpa only [extractPubKeysPEM, h.accepted] using hconv

/-- The keys of a usable JWKS are not empty. -/
theorem UsableJwks.ne_empty {jwks : String} {ks : List RS256Key} {keys : KeyMap}
    (h : self.UsableJwks jwks ks keys) : keys ≠ ∅ :=
  insertPubKeysPEM_ne_empty h.insert_eq (.inr h.nonempty)

/-- The keys of a usable JWKS are those of the ids it accepts. -/
theorem UsableJwks.mem_iff {jwks : String} {ks : List RS256Key} {keys : KeyMap}
    (h : self.UsableJwks jwks ks keys) (id : String) :
    id ∈ keys ↔ id ∈ ks.map RS256Key.id := by
  rw [insertPubKeysPEM_mem h.insert_eq]
  exact or_iff_right Std.ExtTreeMap.not_mem_empty

/-- The keys of a usable response are not empty. -/
theorem Usable.ne_empty {n : Nat} {keys : KeyMap} (h : self.Usable n keys) : keys ≠ ∅ := by
  obtain ⟨_, _, _, hjwks⟩ := h
  exact hjwks.ne_empty

/-- A response has one map of keys. -/
theorem Usable.unique {n : Nat} {keys keys' : KeyMap} (h : self.Usable n keys)
    (h' : self.Usable n keys') : keys = keys' := by
  obtain ⟨jwks, _, hjwks, hu⟩ := h
  obtain ⟨jwks', _, hjwks', hu'⟩ := h'
  rw [hjwks] at hjwks'
  cases hjwks'
  have hconv := hu.converted
  rw [hu'.converted] at hconv
  cases hconv
  rfl

/-- The keys of a usable response are the PEM texts of its accepted keys. -/
theorem Usable.getElem? {n : Nat} {keys : KeyMap} {id pem : String} (h : self.Usable n keys)
    (hpem : keys[id]? = some pem) :
    ∃ jwks ks k, self.jwksProvider n = .ok jwks ∧ parseRS256Keys self.json jwks = .ok ks ∧
      k ∈ ks ∧ k.id = id ∧ self.toPEMPubKey k = .ok pem := by
  obtain ⟨jwks, ks, hjwks, hu⟩ := h
  obtain hnone | ⟨k, hk, hid, hconv⟩ := insertPubKeysPEM_getElem? hu.insert_eq hpem
  · rw [Std.ExtTreeMap.getElem?_empty] at hnone
    exact nomatch hnone
  · exact ⟨jwks, ks, k, hjwks, hu.accepted, hk, hid, hconv⟩

/-! ## Refreshing the cache -/

/-- `fetchKeys` returns exactly the keys of a usable response. -/
theorem fetchKeys_eq_ok {n : Nat} {keys : KeyMap} :
    self.fetchKeys n = .ok keys ↔ self.Usable n keys := by
  constructor
  · intro h
    unfold fetchKeys at h
    split at h
    · exact nomatch h
    · rename_i jwks hjwks
      split at h
      · exact nomatch h
      · rename_i keys' hextract
        split at h
        · exact nomatch h
        · rename_i hne
          cases h
          -- The keys are not empty, so there was one that was accepted
          cases hparse : parseRS256Keys self.json jwks with
          | error e =>
            simp only [extractPubKeysPEM, hparse] at hextract
            exact nomatch hextract
          | ok ks =>
            cases ks with
            | nil =>
              simp only [extractPubKeysPEM, hparse, insertPubKeysPEM] at hextract
              cases hextract
              simp at hne
            | cons k ks =>
              exact ⟨jwks, k :: ks, hjwks, hparse, List.cons_ne_nil k ks, hextract⟩
  · intro ⟨jwks, ks, hjwks, hu⟩
    simp only [fetchKeys, hjwks, hu.converted, Std.ExtTreeMap.isEmpty_iff, hu.ne_empty, if_false]

/-- Everything a refresh does: it calls the provider once and either publishes the keys of
    a usable response or leaves the cache alone, and throws only when it may. -/
theorem updateKeyCache_spec (s : State) :
    (self.updateKeyCache s).2.providerCalls = s.providerCalls + 1 ∧
    ((∃ keys, self.Usable s.providerCalls keys ∧ (self.updateKeyCache s).1 = .ok () ∧
        (self.updateKeyCache s).2.data = keys) ∨
     ((∀ keys, ¬ self.Usable s.providerCalls keys) ∧ (self.updateKeyCache s).2.data = s.data ∧
        ((self.updateKeyCache s).1 = .ok () ↔ self.throwOnError = false))) := by
  cases hf : self.fetchKeys s.providerCalls with
  | ok keys =>
    have heq : self.updateKeyCache s =
        (.ok (), { s with data := keys, providerCalls := s.providerCalls + 1 }) := by
      simp only [updateKeyCache, hf]
    rw [heq]
    exact ⟨rfl, .inl ⟨keys, fetchKeys_eq_ok.mp hf, rfl, rfl⟩⟩
  | error e =>
    have hno : ∀ keys, ¬ self.Usable s.providerCalls keys := by
      intro keys hu
      rw [fetchKeys_eq_ok.mpr hu] at hf
      exact nomatch hf
    -- The error is thrown on or logged, and the data stays in both cases
    simp only [updateKeyCache, hf]
    cases ht : self.throwOnError <;> simp [hno]

/-- Everything the exclusive section does: with the key in the cache it changes nothing;
    otherwise it refreshes once and looks again. -/
theorem exclusiveLookup_spec (keyId : String) (s : State) :
    (∃ pem, s.data[keyId]? = some pem ∧ self.exclusiveLookup keyId s = (.ok pem, s)) ∨
    (s.data[keyId]? = none ∧
      (self.exclusiveLookup keyId s).2 = (self.updateKeyCache s).2 ∧
      (self.exclusiveLookup keyId s).1 =
        (self.updateKeyCache s).1.map fun _ => ((self.updateKeyCache s).2.data[keyId]?).getD "") := by
  unfold exclusiveLookup
  cases hk : s.data[keyId]? with
  | some pem => exact .inl ⟨pem, rfl, rfl⟩
  | none =>
    right
    rcases hu : self.updateKeyCache s with ⟨e | u, s'⟩
    · simp [Except.map]
    · -- The second look finds the key, or gives the empty string
      cases hk' : s'.data[keyId]? <;> simp [hk', Except.map]

/-! ## The cache holds the latest usable response -/

/-- A refresh keeps the invariant, whatever the provider answers. -/
theorem CacheHoldsLatest.update {s : State} (h : self.CacheHoldsLatest s) :
    self.CacheHoldsLatest (self.updateKeyCache s).2 := by
  obtain ⟨hcalls, ⟨keys, hu, _, hdata⟩ | ⟨hno, hdata, _⟩⟩ := self.updateKeyCache_spec s
  · -- The new response is the latest one
    left
    have hlatest : self.LatestUsable (s.providerCalls + 1) s.providerCalls keys :=
      ⟨Nat.lt_succ_self _, hu, fun m keys' hm hm' => by omega⟩
    rw [hcalls, hdata]
    exact ⟨s.providerCalls, hlatest⟩
  · -- The new response is not usable, so what was the latest one still is
    rw [CacheHoldsLatest, hcalls, hdata]
    obtain ⟨n, hn, hu, hlatest⟩ | ⟨hthrow, hnone, hempty⟩ := h
    · have hlatest' : ∀ m keys', n < m → m < s.providerCalls + 1 → ¬self.Usable m keys' := by
        intro m keys' hm hm'
        by_cases hlast : m = s.providerCalls
        · exact hlast ▸ hno keys'
        · exact hlatest m keys' hm (by omega)
      exact .inl ⟨n, by omega, hu, hlatest'⟩
    · have hnone' : ∀ m keys', m < s.providerCalls + 1 → ¬self.Usable m keys' := by
        intro m keys' hm
        by_cases hlast : m = s.providerCalls
        · exact hlast ▸ hno keys'
        · exact hnone m keys' (by omega)
      exact .inr ⟨hthrow, hnone', hempty⟩

/-- The constructor establishes the invariant. -/
theorem construct_cacheHoldsLatest {s₀ : State} (h : self.construct = .ok s₀) :
    self.CacheHoldsLatest s₀ := by
  obtain ⟨hcalls, hcases⟩ := self.updateKeyCache_spec ⟨∅, 0, []⟩
  simp only [Nat.zero_add] at hcalls
  simp only [construct] at h
  rcases hu : self.updateKeyCache ⟨∅, 0, []⟩ with ⟨e | u, s⟩
  · rw [hu] at h
    exact nomatch h
  · rw [hu] at h hcalls hcases
    cases h
    obtain ⟨keys, husable, _, hdata⟩ | ⟨hno, hdata, hthrow⟩ := hcases
    · left
      rw [hcalls, hdata]
      exact ⟨0, Nat.zero_lt_one, husable, fun m _ hm hm' => by omega⟩
    · -- The first response, the only one so far, is not usable
      have hnone : ∀ n keys, n < s₀.providerCalls → ¬self.Usable n keys := by
        intro n keys hn
        rw [hcalls] at hn
        obtain rfl : n = 0 := by omega
        exact hno keys
      exact .inr ⟨hthrow.mp rfl, hnone, hdata⟩

/-- The shared section with the key in the cache. -/
theorem lookup_exec_hit {keyId pem : String} {s : State} (h : s.data[keyId]? = some pem) :
    self.lookup.exec (.shared keyId) s = (.inr (.ok pem), s) := by
  simp only [lookup, sharedLookup, h]

/-- The shared section without the key in the cache. -/
theorem lookup_exec_miss {keyId : String} {s : State} (h : s.data[keyId]? = none) :
    self.lookup.exec (.shared keyId) s = (.inl (.exclusive keyId), s) := by
  simp only [lookup, sharedLookup, h]

/-- The exclusive section. -/
theorem lookup_exec_exclusive (keyId : String) (s : State) :
    self.lookup.exec (.exclusive keyId) s =
      (.inr (self.exclusiveLookup keyId s).1, (self.exclusiveLookup keyId s).2) := rfl

/-- What one section of a lookup does to the cache: nothing, or one refresh after the key
    was not found under the exclusive lock. -/
theorem lookup_exec (l : LookupLoc) (s : State) :
    (self.lookup.exec l s).2 = s ∨
    (∃ keyId, l = .exclusive keyId ∧ s.data[keyId]? = none ∧
      (self.lookup.exec l s).2 = (self.updateKeyCache s).2) := by
  cases l with
  | shared keyId =>
    left
    cases h : s.data[keyId]? with
    | some pem => rw [lookup_exec_hit h]
    | none => rw [lookup_exec_miss h]
  | exclusive keyId =>
    rw [lookup_exec_exclusive]
    obtain ⟨pem, _, heq⟩ | ⟨hnone, hstate, _⟩ := self.exclusiveLookup_spec keyId s
    · left
      rw [heq]
    · exact .inr ⟨keyId, rfl, hnone, hstate⟩

/-- What one section of a lookup does to the data of the cache: a refresh that fails leaves
    it alone, one that does not publishes its keys, and neither empties it. -/
theorem lookup_exec_data (l : LookupLoc) (s : State) :
    ((∀ keys, ¬ self.Usable s.providerCalls keys) →
      (self.lookup.exec l s).2.data = s.data) ∧
    ((self.lookup.exec l s).2 = s ∨
      (self.lookup.exec l s).2.providerCalls = s.providerCalls + 1 ∧
      ∀ keys, self.Usable s.providerCalls keys → (self.lookup.exec l s).2.data = keys) ∧
    (s.data ≠ ∅ → (self.lookup.exec l s).2.data ≠ ∅) := by
  obtain heq | ⟨_, _, _, heq⟩ := self.lookup_exec l s <;> rw [heq]
  · exact ⟨fun _ => rfl, .inl rfl, id⟩
  · obtain ⟨hcalls, ⟨keys, hu, _, hdata⟩ | ⟨hno, hdata, _⟩⟩ := self.updateKeyCache_spec s
    · -- A usable response has only one map of keys, and it is not empty
      have hpublished : ∀ keys', self.Usable s.providerCalls keys' →
          (self.updateKeyCache s).2.data = keys' := by
        intro keys' hu'
        rw [hdata, hu.unique hu']
      have hfilled : (self.updateKeyCache s).2.data ≠ ∅ := by
        rw [hdata]
        exact hu.ne_empty
      exact ⟨fun hno => absurd hu (hno keys), .inr ⟨hcalls, hpublished⟩, fun _ => hfilled⟩
    · rw [hdata]
      exact ⟨fun _ => rfl, .inr ⟨hcalls, fun keys hu => absurd hu (hno keys)⟩, id⟩

/-- An outcome that is a non-empty string is the entry of the cache for the key id. -/
theorem lookup_exec_found {l : LookupLoc} {s : State} {pem : String}
    (h : (self.lookup.exec l s).1 = .inr (.ok pem)) (hpem : pem ≠ "") :
    (self.lookup.exec l s).2.data[l.keyId]? = some pem := by
  cases l with
  | shared keyId =>
    cases hk : s.data[keyId]? with
    | some p =>
      rw [lookup_exec_hit hk] at h ⊢
      cases h
      exact hk
    | none =>
      rw [lookup_exec_miss hk] at h
      exact nomatch h
  | exclusive keyId =>
    rw [lookup_exec_exclusive] at h ⊢
    obtain ⟨pem', hpem', heq⟩ | ⟨_, hstate, hres⟩ := self.exclusiveLookup_spec keyId s
    · rw [heq] at h ⊢
      cases h
      exact hpem'
    · -- The outcome is what the second look found
      rw [hstate]
      rw [Sum.inr.injEq, hres] at h
      cases hu : (self.updateKeyCache s).1 with
      | error e =>
        rw [hu] at h
        exact nomatch h
      | ok u =>
        rw [hu, Except.map, Except.ok.injEq] at h
        rw [LookupLoc.keyId]
        cases hk : (self.updateKeyCache s).2.data[keyId]? with
        | none =>
          rw [hk] at h
          exact absurd h.symm hpem
        | some p =>
          rw [hk] at h
          exact congrArg some h

/-- A section that goes on keeps the key id. -/
theorem lookup_goesOn_keyId (keyId : String) (l : LookupLoc) (s : State) (l' : LookupLoc)
    (h : l.keyId = keyId) (hl' : (self.lookup.exec l s).1 = .inl l') : l'.keyId = keyId := by
  cases l with
  | shared k =>
    cases hk : s.data[k]? with
    | some pem =>
      rw [lookup_exec_hit hk] at hl'
      exact nomatch hl'
    | none =>
      rw [lookup_exec_miss hk] at hl'
      cases hl'
      exact h
  | exclusive k => exact nomatch hl'

/-- The two sections of a lookup that no other thread gets between are `operator()`. -/
theorem lookup_alone (keyId : String) (s : State) :
    self.lookup.alone 2 (self.lookup.start keyId) s = some (self.lookupAlone keyId s) := by
  have hstart : self.lookup.start keyId = .shared keyId := rfl
  rw [hstart]
  unfold lookupAlone sharedLookup
  cases hk : s.data[keyId]? with
  | some pem => simp only [Proc.alone, lookup_exec_hit hk]
  | none => simp only [Proc.alone, lookup_exec_miss hk, lookup_exec_exclusive]

/-! ## The provider of the tests -/

/-- The JWKS the tests answer with. -/
def testJwks : String :=
  "\x7b\"keys\": [\x7b\"kty\": \"RSA\",\"use\": \"sig\",\"n\": \"abc\",\"e\": \"def\"," ++
    "\"kid\": \"key_0\" \x7d]\x7d"

/-- The PEM text of the key in it. -/
def testPEM : String :=
  "-----BEGIN PUBLIC KEY-----\nMBwwDQYJKoZIhvcNAQEBBQADCwAwCAICabcCAnXn\n" ++
    "-----END PUBLIC KEY-----\n"

/-- The JSON library on the texts of the tests. -/
def testJson : NlohmannJson where
  parse text :=
    if text = testJwks then
      .ok (.ofMembers [("keys", .array [.ofMembers [("kty", .string "RSA"),
        ("use", .string "sig"), ("n", .string "abc"), ("e", .string "def"),
        ("kid", .string "key_0")]])])
    else .error "[json.exception.parse_error.101] parse error"
  dump _ := .error "[json.exception.type_error.316] invalid UTF-8 byte"
  atError _ _ := "[json.exception.out_of_range.403] key not found"
  typeError _ := "[json.exception.type_error.302] type must be another"
  castOutOfRange _ := Int32.minValue

/-- The provider of the tests, which answers every call with the same JWKS and throws on
    errors. -/
def testProvider : RestJwksRSAKeyProvider where
  json := testJson
  toPEMPubKey key :=
    if key = ⟨"key_0", "abc", "def"⟩ then .ok testPEM
    else .error (.runtimeError "OSSL: unable to initialize key")
  jwksProvider _ := .ok testJwks
  throwOnError := true

/-- The cache of the tests once the provider is constructed. -/
def testState : State := ⟨(∅ : KeyMap).insert "key_0" testPEM, 1, []⟩

/-- A lookup of the existing key and one of a key that does not exist. -/
def testKeyId : Bool → String
  | true => "key_0"
  | false => "key_29"

/-- The lookup of the existing key runs between the two sections of the other. -/
def testTrace : List (Event Bool) :=
  [.call false, .exec false, .call true, .exec true, .exec false, .ret true, .ret false]

/-! ## Every reachable cache -/

section Runs

variable {ι : Type} [DecidableEq ι] {keyId : ι → String}

/-- A thread in `operator()` still knows the key id it was called with. -/
theorem running_keyId {s₀ : State} {tr : List (Event ι)}
    {c : Config ι LookupLoc State (Except Exn String)}
    (h : self.lookup.run keyId (.initial s₀) tr = some c) :
    ∀ i l, c.phase i = .running l → l.keyId = keyId i :=
  run_running (J := fun a l => l.keyId = a) (fun _ => rfl) lookup_goesOn_keyId (fun _ => rfl) h

omit [DecidableEq ι] in
/-- Every section of a lookup keeps the invariant. -/
theorem CacheHoldsLatest.exec {s : State} (h : self.CacheHoldsLatest s) (l : LookupLoc) :
    self.CacheHoldsLatest (self.lookup.exec l s).2 := by
  obtain heq | ⟨_, _, _, heq⟩ := self.lookup_exec l s
  · rw [heq]
    exact h
  · rw [heq]
    exact h.update

/-- Every reachable cache holds the keys of the latest usable response, or is empty when
    there was none and errors are not thrown on. -/
theorem run_cacheHoldsLatest {s₀ : State} (h₀ : self.construct = .ok s₀) {tr : List (Event ι)}
    {c : Config ι LookupLoc State (Except Exn String)}
    (h : self.lookup.run keyId (.initial s₀) tr = some c) : self.CacheHoldsLatest c.shared := by
  apply run_shared (I := self.CacheHoldsLatest) _ (construct_cacheHoldsLatest h₀) h
  intro l s hs
  exact hs.exec l

/-- **The cache never holds anything but the latest usable response.** In every state that
    lookups of any number of threads reach from a constructed provider, and for every next
    section of a lookup: a refresh that fails leaves the cache as it was, one that does
    not publishes the keys of its response, a filled cache stays filled, and a non-empty
    result is the PEM text of an accepted key with the requested id in the response the
    cache holds. -/
theorem cache_holds_latest {s₀ : State} (h₀ : self.construct = .ok s₀) {tr : List (Event ι)}
    {c : Config ι LookupLoc State (Except Exn String)}
    (h : self.lookup.run keyId (.initial s₀) tr = some c) :
    self.CacheHoldsLatest c.shared ∧
    ∀ i d, self.lookup.step keyId c (.exec i) = some d →
      ((∀ keys, ¬ self.Usable c.shared.providerCalls keys) → d.shared.data = c.shared.data) ∧
      (d.shared = c.shared ∨
        d.shared.providerCalls = c.shared.providerCalls + 1 ∧
        ∀ keys, self.Usable c.shared.providerCalls keys → d.shared.data = keys) ∧
      (c.shared.data ≠ ∅ → d.shared.data ≠ ∅) ∧
      ∀ pem, d.phase i = .finished (.ok pem) → pem ≠ "" →
        ∃ n jwks ks k, self.LatestUsable d.shared.providerCalls n d.shared.data ∧
          self.jwksProvider n = .ok jwks ∧ parseRS256Keys self.json jwks = .ok ks ∧
          k ∈ ks ∧ k.id = keyId i ∧ self.toPEMPubKey k = .ok pem := by
  refine ⟨run_cacheHoldsLatest h₀ h, fun i d hd => ?_⟩
  have hholds : self.CacheHoldsLatest d.shared := run_cacheHoldsLatest h₀ (run_concat.mpr ⟨c, h, hd⟩)
  obtain ⟨l, hl, rfl⟩ := step_exec hd
  obtain ⟨hfail, hrefresh, hfilled⟩ := self.lookup_exec_data l c.shared
  refine ⟨hfail, hrefresh, hfilled, fun pem hpem hne => ?_⟩
  have hdone : (self.lookup.exec l c.shared).1 = .inr (.ok pem) := by
    cases hx : (self.lookup.exec l c.shared).1 <;>
      simp_all [Function.update_self, Phase.after]
  -- A non-empty result is an entry of the cache, which holds the latest usable response
  have hentry := lookup_exec_found hdone hne
  rw [running_keyId h i l hl] at hentry
  obtain ⟨n, hlatest⟩ | ⟨_, _, hempty⟩ := hholds
  · obtain ⟨jwks, ks, k, hk⟩ := hlatest.2.1.getElem? hentry
    exact ⟨n, jwks, ks, k, hlatest, hk⟩
  · dsimp only at hempty
    rw [hempty, Std.ExtTreeMap.getElem?_empty] at hentry
    cases hentry

/-- The invariant on the provider of the tests. -/
theorem cache_holds_latest_test : testProvider.construct = .ok testState ∧
    ∃ c, testProvider.lookup.run testKeyId (.initial testState) testTrace = some c ∧
      testProvider.CacheHoldsLatest c.shared := by
  have h₀ : testProvider.construct = .ok testState := rfl
  have hstarts : (testProvider.lookup.run testKeyId (.initial testState) testTrace).isSome = true :=
    rfl
  obtain ⟨c, h⟩ := Option.isSome_iff_exists.mp hstarts
  exact ⟨h₀, c, h, (cache_holds_latest h₀ h).1⟩

/-! ## Lookups are linearizable -/

/-- The lookup made at one instant: return the cached key if it is present, otherwise
    refresh once and look again, otherwise return the empty string. -/
def lookupAtOnce (self : RestJwksRSAKeyProvider) (keyId : String) (s : State) :
    Except Exn String × State :=
  match s.data[keyId]? with
  | some pem => (.ok pem, s)
  | none =>
    let r := self.updateKeyCache s
    (r.1.map fun _ => (r.2.data[keyId]?).getD "", r.2)

/-- A section that finds no key under the shared lock changes nothing; every other section
    ends its lookup as the lookup at one instant does. -/
theorem lookup_atomic : Atomic self.lookup self.lookupAtOnce LookupLoc.keyId where
  start _ := rfl
  goesOn l s l' s' h := by
    cases l with
    | shared keyId =>
      cases hk : s.data[keyId]? with
      | some pem =>
        rw [lookup_exec_hit hk] at h
        exact nomatch (congrArg Prod.fst h)
      -- No key: the lookup goes on, and nothing has changed
      | none =>
        rw [lookup_exec_miss hk] at h
        cases h
        exact ⟨rfl, rfl⟩
    | exclusive keyId => exact nomatch (congrArg Prod.fst h)
  ends l s r s' h := by
    cases l with
    | shared keyId =>
      cases hk : s.data[keyId]? with
      | some pem =>
        rw [lookup_exec_hit hk] at h
        cases h
        simp only [LookupLoc.keyId, lookupAtOnce, hk]
      | none =>
        rw [lookup_exec_miss hk] at h
        exact nomatch (congrArg Prod.fst h)
    | exclusive keyId =>
      rw [lookup_exec_exclusive, Prod.mk.injEq, Sum.inr.injEq] at h
      obtain ⟨rfl, rfl⟩ := h
      simp only [LookupLoc.keyId, lookupAtOnce]
      -- Another thread may have refreshed the keys in the meantime
      obtain ⟨pem, hpem, heq⟩ | ⟨hnone, hstate, hres⟩ := self.exclusiveLookup_spec keyId s
      · rw [hpem, heq]
      · rw [hnone, hstate, hres]

/-- **Concurrent lookups are linearizable.** Whatever the provider answers and however the
    sections of the lookups of any number of threads, through any copies of the provider,
    are interleaved, each lookup that returned has the outcome it would have if it were
    made at one instant between its call and its return, and at every moment the cache is
    the one that the lookups made so far leave when they are executed one after the
    other. -/
theorem lookup_linearizable {s₀ : State} {tr : List (Event ι)}
    {c : Config ι LookupLoc State (Except Exn String)}
    (h : self.lookup.run keyId (.initial s₀) tr = some c) :
    ∃ pts, IsLinearization self.lookup keyId self.lookupAtOnce (.initial s₀) tr c pts :=
  linearizable lookup_atomic (fun _ => rfl) h

/-- A linearization of the two lookups of the tests. -/
theorem lookup_linearizable_test :
    ∃ c, testProvider.lookup.run testKeyId (.initial testState) testTrace = some c ∧
      ∃ pts, IsLinearization testProvider.lookup testKeyId testProvider.lookupAtOnce
        (.initial testState) testTrace c pts :=
  ⟨_, rfl, lookup_linearizable rfl⟩

end Runs

end RestJwksRSAKeyProvider

end SapperBricks
