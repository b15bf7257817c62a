import SapperBricks.ForStd.Latest
import SapperBricks.Spec.KeyCache

/-!
# The keys of a JWKS

Which elements of a JWKS `parse_RS256Keys` takes for signature keys, whatever they are, and
which of the signature keys of a JWKS as RFC 7517 describes it that leaves out, and what
`extractPubKeysPEM` makes of the keys that are taken.

## Key results

- `rs256Key?_eq_some`: the elements that are taken
- `pushRS256Key_eq`: no access of the loop throws
- `parseRS256Keys_filters`: the result is that of the elements taken, one after the other
- `conforming_keys_iff`: the key sets of which no signature key is missing
- `extractPubKeysPEM_spec`: the map of the keys, or when there is none
-/

namespace SapperBricks

open Keyed

/-! ## Accesses -/

namespace Json

/-- A member that is a string. -/
theorem stringAt?_eq_some {j : Json} {name text : String} :
    j.stringAt? name = some text ↔ j.find? name = some (.string text) := by
  unfold stringAt?
  cases j.find? name with
  | none => simp
  | some v => cases v <;> simp [string?]

end Json

variable (lib : NlohmannJson) (key : Json) (name text : String)

/-- A member is read only if it is there. -/
theorem hasString_eq : hasString lib key name = .ok (key.stringAt? name).isSome := by
  unfold hasString Json.contains Json.stringAt? NlohmannJson.index
  cases key.find? name <;> rfl

variable {key name}

/-- The text of a member that is a string. -/
theorem memberIs_of_stringAt? {s : String} (h : key.stringAt? name = some s) :
    memberIs lib key name text = .ok (decide (s = text)) := by
  rw [Json.stringAt?_eq_some] at h
  simp [memberIs, NlohmannJson.index, h, Json.string?]

/-- A member that is a string is found. -/
theorem index_of_stringAt? {s : String} (h : key.stringAt? name = some s) :
    lib.index key name = .ok (.string s) := by
  simp only [NlohmannJson.index, Json.stringAt?_eq_some.mp h]

/-- A member that is to be a given text is compared only if it is a string. -/
theorem hasString_and_memberIs : (hasString lib key name <&&> memberIs lib key name text) =
    .ok (decide (key.stringAt? name = some text)) := by
  rw [hasString_eq]
  cases h : key.stringAt? name with
  -- Without the member, or with one that is no string, nothing is compared
  | none => rfl
  | some s =>
    simp only [Option.isSome_some, Option.some.injEq]
    exact memberIs_of_stringAt? lib text h

/-- The same for two texts. -/
theorem hasString_and_memberIs_or (text' : String) :
    (hasString lib key name <&&> (memberIs lib key name text <||> memberIs lib key name text')) =
      .ok (decide (key.stringAt? name = some text ∨ key.stringAt? name = some text')) := by
  rw [hasString_eq]
  cases h : key.stringAt? name with
  | none => rfl
  | some s =>
    simp only [andM, orM, memberIs_of_stringAt? lib _ h, bind, Except.bind, pure, Except.pure,
      toBool, Option.isSome_some, Option.some.injEq]
    by_cases hs : s = text <;> simp [hs]

/-! ## The loop -/

theorem andM_ok {ε : Type} (a b : Bool) :
    ((.ok a : Except ε Bool) <&&> .ok b) = .ok (a && b) := by
  cases a <;> rfl

theorem orM_ok {ε : Type} (a b : Bool) :
    ((.ok a : Except ε Bool) <||> .ok b) = .ok (a || b) := by
  cases a <;> rfl

/-- No access of the loop throws: each is made only where the conditions before it hold. -/
theorem pushRS256Key_eq (result : List RS256Key) (key : Json) :
    pushRS256Key lib result key = .ok (result ++ (rs256Key? key).toList) := by
  unfold pushRS256Key rs256Key?
  rw [hasString_and_memberIs, hasString_and_memberIs_or, hasString_and_memberIs, hasString_eq,
    hasString_eq, hasString_eq, andM_ok, andM_ok, orM_ok, ← Bool.decide_or]
  simp only [bind, Except.bind, pure, Except.pure, Bool.not_eq_true', decide_eq_false_iff_not]
  -- An element that is skipped by one of the first two conditions is skipped in both
  split
  · simp
  split
  · simp
  cases hkid : key.stringAt? "kid" with
  | none => simp
  | some id =>
    cases hn : key.stringAt? "n" with
    | none => simp
    | some n =>
      cases he : key.stringAt? "e" with
      | none => simp
      | some e =>
        -- The three members are strings, so the conversions do not throw
        simp only [index_of_stringAt? lib hkid, index_of_stringAt? lib hn,
          index_of_stringAt? lib he, NlohmannJson.getString]
        -- Only the empty texts are left to skip the element
        by_cases hempty : id = "" ∨ n = "" ∨ e = "" <;> simp [hempty]

/-- The loop pushes the keys of the elements it takes, in their order. -/
theorem foldlM_pushRS256Key (elements : List Json) (result : List RS256Key) :
    elements.foldlM (pushRS256Key lib) result =
      .ok (result ++ elements.filterMap rs256Key?) := by
  induction elements generalizing result with
  | nil => simp [pure, Except.pure]
  | cons key elements ih =>
    rw [List.foldlM_cons, pushRS256Key_eq]
    refine (ih _).trans ?_
    cases hkey : rs256Key? key <;> simp [hkey]

/-- With its accesses or without, `parse_RS256Keys` is the same. -/
theorem parseRS256KeysByAccess_eq (jwksJson : String) :
    parseRS256KeysByAccess lib jwksJson = parseRS256Keys lib jwksJson := by
  unfold parseRS256KeysByAccess parseRS256Keys
  cases lib.parse jwksJson with
  | error what => rfl
  | ok j =>
    simp only [bind, Except.bind]
    cases hkeys : j.find? "keys" with
    | none => simp [Json.contains, hkeys, pure, Except.pure, Except.mapError]
    | some keys =>
      have hcontains : j.contains "keys" = true := by simp [Json.contains, hkeys]
      simp only [hcontains, if_true, NlohmannJson.index, hkeys, foldlM_pushRS256Key]
      rfl

/-! ## The elements that are taken -/

/-- An element is an RSA key with this id, modulus and exponent. -/
structure IsRSAKey (key : Json) (k : RS256Key) : Prop where
  kty : key.find? "kty" = some (.string "RSA")
  kid : key.find? "kid" = some (.string k.id)
  n : key.find? "n" = some (.string k.modulusBase64)
  e : key.find? "e" = some (.string k.exponentBase64)
  nonempty : k.id ≠ "" ∧ k.modulusBase64 ≠ "" ∧ k.exponentBase64 ≠ ""

/-- An element is an object, for signatures by its `use` or a `key_ops` that is one text, and
    an RSA key. -/
structure IsSignatureKey (key : Json) (k : RS256Key) : Prop extends IsRSAKey key k where
  object : ∃ members, key = .object members
  forSignatures : key.find? "use" = some (.string "sig") ∨
    key.find? "key_ops" = some (.string "sign") ∨ key.find? "key_ops" = some (.string "verify")

/-- The elements of `keys`, in the order in which they are iterated. -/
def jwksElements (j : Json) : List Json :=
  match j.find? "keys" with
  | none => []
  | some keys => keys.iterate

/-- The elements that are taken, and the keys they are taken for. -/
theorem rs256Key?_eq_some {key : Json} {k : RS256Key} :
    rs256Key? key = some k ↔ IsSignatureKey key k := by
  obtain ⟨id, modulus, exponent⟩ := k
  unfold rs256Key?
  constructor
  · intro h
    split at h
    · exact nomatch h
    -- Each condition that did not skip the element says something of its members
    rename_i hsig
    split at h
    · exact nomatch h
    rename_i hkty
    split at h
    · rename_i kid n e hkid hn he
      split at h
      · exact nomatch h
      rename_i hempty
      cases h
      rw [not_not] at hsig hkty
      simp only [not_or] at hempty
      simp only [Json.stringAt?_eq_some] at hsig hkty hkid hn he
      refine ⟨⟨hkty, hkid, hn, he, hempty⟩, ?_, hsig⟩
      -- Nothing but an object has members
      cases key with
      | object members => exact ⟨members, rfl⟩
      | _ => exact nomatch hkty
    · exact nomatch h
  · rintro ⟨⟨hkty, hkid, hn, he, hempty⟩, -, hsig⟩
    simp only [← Json.stringAt?_eq_some] at hsig hkty hkid hn he
    rw [if_neg (not_not.mpr hsig), if_neg (not_not.mpr hkty)]
    simp only [hkid, hn, he]
    exact if_neg (by simpa only [not_or] using hempty)

/-- Every key that is returned is that of an element. -/
theorem mem_parseRS256Keys {text : String} {ks : List RS256Key}
    (h : parseRS256Keys lib text = .ok ks) {k : RS256Key} (hk : k ∈ ks) :
    ∃ key, IsSignatureKey key k := by
  unfold parseRS256Keys at h
  split at h
  · exact nomatch h
  · split at h
    · cases h
      exact nomatch hk
    · cases h
      obtain ⟨key, -, hkey⟩ := List.mem_filterMap.mp hk
      exact ⟨key, rs256Key?_eq_some.mp hkey⟩

/-- **The keys of a document.** Whatever the document of a text is, `parse_RS256Keys` does not
    throw and returns one key for each element of `keys` that is a signature key, in their
    order; so for an array that is two arrays one after the other it returns the keys of the
    first followed by those of the second. -/
theorem parseRS256Keys_filters (lib : NlohmannJson) {text : String} {j : Json}
    (h : lib.parse text = .ok j) :
    parseRS256KeysByAccess lib text = .ok ((jwksElements j).filterMap rs256Key?) ∧
    (∀ key k, rs256Key? key = some k ↔ IsSignatureKey key k) ∧
    ∀ text₁ text₂ j₁ j₂ xs ys, lib.parse text₁ = .ok j₁ → j₁.find? "keys" = some (.array xs) →
      lib.parse text₂ = .ok j₂ → j₂.find? "keys" = some (.array ys) →
      j.find? "keys" = some (.array (xs ++ ys)) →
        ∃ ks₁ ks₂, parseRS256KeysByAccess lib text₁ = .ok ks₁ ∧
          parseRS256KeysByAccess lib text₂ = .ok ks₂ ∧
          parseRS256KeysByAccess lib text = .ok (ks₁ ++ ks₂) := by
  have hparse : ∀ text j, lib.parse text = .ok j →
      parseRS256KeysByAccess lib text = .ok ((jwksElements j).filterMap rs256Key?) := by
    intro text j h
    rw [parseRS256KeysByAccess_eq, parseRS256Keys, jwksElements]
    simp only [h]
    cases j.find? "keys" <;> rfl
  refine ⟨hparse text j h, fun _ _ => rs256Key?_eq_some, ?_⟩
  intro text₁ text₂ j₁ j₂ xs ys h₁ hxs h₂ hys hkeys
  -- The elements of an array are iterated in their order
  have helements : ∀ {j elements}, j.find? "keys" = some (.array elements) →
      jwksElements j = elements := by
    intro j elements hj
    rw [jwksElements, hj]
    rfl
  refine ⟨_, _, hparse text₁ j₁ h₁, hparse text₂ j₂ h₂, ?_⟩
  rw [hparse text j h, helements hkeys, helements hxs, helements hys, List.filterMap_append]

/-- The key of the JWKS of the tests. -/
theorem parseRS256Keys_filters_test :
    parseRS256KeysByAccess RestJwksRSAKeyProvider.testJson RestJwksRSAKeyProvider.testJwks =
      .ok [⟨"key_0", "abc", "def"⟩] := by
  have hparse : RestJwksRSAKeyProvider.testJson.parse RestJwksRSAKeyProvider.testJwks =
    .ok (.ofMembers [("keys", .array [.ofMembers [("kty", .string "RSA"),
      ("use", .string "sig"), ("n", .string "abc"), ("e", .string "def"),
      ("kid", .string "key_0")]])]) := rfl
  exact (parseRS256Keys_filters _ hparse).1

/-! ## Key sets of RFC 7517 -/

/-- A JSON Web Key, as far as it says what the key is for: the names of its members are
    distinct, those of its members that are texts are strings, and `key_ops` is an array of
    distinct strings. -/
structure ConformingJwk (key : Json) : Prop where
  object : ∃ members, key = .object members ∧ (members.map Prod.fst).Nodup
  kty : ∃ text, key.find? "kty" = some (.string text)
  use : ∀ v, key.find? "use" = some v → ∃ text, v = .string text
  keyOps : ∀ v, key.find? "key_ops" = some v →
    ∃ ops : List String, v = .array (ops.map .string) ∧ ops.Nodup
  kid : ∀ v, key.find? "kid" = some v → ∃ text, v = .string text

/-- A JWK Set: an object whose `keys` is an array of keys. -/
structure ConformingJwks (j : Json) : Prop where
  object : ∃ members, j = .object members ∧ (members.map Prod.fst).Nodup
  keys : ∃ elements, j.find? "keys" = some (.array elements) ∧
    ∀ key ∈ elements, ConformingJwk key

/-- An RSA key that is designated for signatures, by its `use` or by an operation of its
    `key_ops`. -/
structure DesignatedKey (key : Json) (k : RS256Key) : Prop extends IsRSAKey key k where
  forSignatures : key.find? "use" = some (.string "sig") ∨
    ∃ ops, key.find? "key_ops" = some (.array ops) ∧
      (.string "sign" ∈ ops ∨ .string "verify" ∈ ops)

/-- Of a conforming key only its `use` is seen. -/
theorem ConformingJwk.isSignatureKey_iff {key : Json} (h : ConformingJwk key) {k : RS256Key} :
    IsSignatureKey key k ↔ key.find? "use" = some (.string "sig") ∧ IsRSAKey key k := by
  constructor
  · intro hk
    refine ⟨?_, hk.toIsRSAKey⟩
    obtain huse | hops | hops := hk.forSignatures
    · exact huse
    · -- A `key_ops` that is one text does not conform
      obtain ⟨ops, heq, -⟩ := h.keyOps _ hops
      exact nomatch heq
    · obtain ⟨ops, heq, -⟩ := h.keyOps _ hops
      exact nomatch heq
  · intro ⟨huse, hk⟩
    obtain ⟨members, hobject, -⟩ := h.object
    exact { toIsRSAKey := hk, object := ⟨members, hobject⟩, forSignatures := .inl huse }

/-- **Which key sets are read in full.** From the text of a conforming JWK Set
    `parse_RS256Keys` returns every RSA key that is designated for signatures exactly if each
    such key is in the set with a `use` of `sig`. -/
theorem conforming_keys_iff (lib : NlohmannJson) {text : String} {j : Json}
    (h : lib.parse text = .ok j) (hj : ConformingJwks j) :
    (∃ ks, parseRS256KeysByAccess lib text = .ok ks ∧
      ∀ key ∈ jwksElements j, ∀ k, DesignatedKey key k → k ∈ ks) ↔
    ∀ key ∈ jwksElements j, ∀ k, DesignatedKey key k →
      ∃ key' ∈ jwksElements j, key'.find? "use" = some (.string "sig") ∧ IsRSAKey key' k := by
  obtain ⟨elements, hkeys, hconforming⟩ := hj.keys
  have helements : jwksElements j = elements := by
    rw [jwksElements, hkeys]
    rfl
  have hparse : parseRS256KeysByAccess lib text = .ok (elements.filterMap rs256Key?) := by
    rw [parseRS256KeysByAccess_eq, parseRS256Keys]
    simp only [h, hkeys]
    rfl
  -- A key is returned if it is one of an element whose `use` says so
  have hmem : ∀ k, k ∈ elements.filterMap rs256Key? ↔
      ∃ key' ∈ elements, key'.find? "use" = some (.string "sig") ∧ IsRSAKey key' k := by
    intro k
    rw [List.mem_filterMap]
    refine exists_congr fun key' => and_congr_right fun hkey' => ?_
    rw [rs256Key?_eq_some]
    exact (hconforming key' hkey').isSignatureKey_iff
  rw [helements, hparse]
  simp only [Except.ok.injEq, exists_eq_left', hmem]

/-- A key set of one key, with `key_ops` and a `use`. -/
def keyOpsJwks : String :=
  "\x7b\"keys\":[\x7b\"kty\":\"RSA\",\"use\":\"sig\",\"key_ops\":[\"verify\"],\"n\":\"abc\"," ++
    "\"e\":\"def\",\"kid\":\"key_0\"\x7d]\x7d"

/-- The same without the `use`. -/
def onlyKeyOpsJwks : String :=
  "\x7b\"keys\":[\x7b\"kty\":\"RSA\",\"key_ops\":[\"verify\"],\"n\":\"abc\"," ++
    "\"e\":\"def\",\"kid\":\"key_0\"\x7d]\x7d"

/-- The members of the key in both beside its `use`. -/
def keyOpsMembers : List (String × Json) :=
  [("e", .string "def"), ("key_ops", .array [.string "verify"]), ("kid", .string "key_0"),
    ("kty", .string "RSA"), ("n", .string "abc")]

/-- The JSON library on these texts. -/
def keyOpsJson : NlohmannJson where
  __ := RestJwksRSAKeyProvider.testJson
  parse text :=
    if text = keyOpsJwks then
      .ok (.object [("keys", .array [.object (keyOpsMembers ++ [("use", .string "sig")])])])
    else if text = onlyKeyOpsJwks then
      .ok (.object [("keys", .array [.object keyOpsMembers])])
    else .error "[json.exception.parse_error.101] parse error"

/-- The key is a conforming one with a `use` or without. -/
theorem keyOpsMembers_conforming {use : List (String × Json)}
    (huse : use = [] ∨ use = [("use", .string "sig")]) :
    ConformingJwk (.object (keyOpsMembers ++ use)) := by
  obtain rfl | rfl := huse
  · refine ⟨⟨_, rfl, by decide⟩, ⟨"RSA", rfl⟩, ?_, ?_, ?_⟩ <;> intro v h <;> cases h
    · exact ⟨["verify"], rfl, by decide⟩
    · exact ⟨"key_0", rfl⟩
  · refine ⟨⟨_, rfl, by decide⟩, ⟨"RSA", rfl⟩, ?_, ?_, ?_⟩ <;> intro v h <;> cases h
    · exact ⟨"sig", rfl⟩
    · exact ⟨["verify"], rfl, by decide⟩
    · exact ⟨"key_0", rfl⟩

/-- So are the sets of it alone. -/
theorem keyOpsJwks_conforming {use : List (String × Json)}
    (huse : use = [] ∨ use = [("use", .string "sig")]) :
    ConformingJwks (.object [("keys", .array [.object (keyOpsMembers ++ use)])]) := by
  refine ⟨⟨_, rfl, List.pairwise_singleton _ _⟩, _, rfl, ?_⟩
  intro key hkey
  rw [List.mem_singleton.mp hkey]
  exact keyOpsMembers_conforming huse

/-- A key with both is returned. -/
theorem conforming_keys_iff_test :
    ∃ ks, parseRS256KeysByAccess keyOpsJson keyOpsJwks = .ok ks ∧
      ∀ key ∈ jwksElements (.object [("keys", .array [.object (keyOpsMembers ++
        [("use", .string "sig")])])]), ∀ k, DesignatedKey key k → k ∈ ks := by
  have hparse : keyOpsJson.parse keyOpsJwks = .ok (.object [("keys", .array
    [.object (keyOpsMembers ++ [("use", .string "sig")])])]) := rfl
  apply (conforming_keys_iff keyOpsJson hparse (keyOpsJwks_conforming (.inr rfl))).mpr
  intro key hkey k hk
  refine ⟨key, hkey, ?_, hk.toIsRSAKey⟩
  rw [List.mem_singleton.mp hkey]
  rfl

/-- A key that is designated by its `key_ops` alone is left out of a conforming set. -/
theorem conforming_key_left_out :
    keyOpsJson.parse onlyKeyOpsJwks =
      .ok (.object [("keys", .array [.object keyOpsMembers])]) ∧
    ConformingJwks (.object [("keys", .array [.object keyOpsMembers])]) ∧
    DesignatedKey (.object keyOpsMembers) ⟨"key_0", "abc", "def"⟩ ∧
    parseRS256KeysByAccess keyOpsJson onlyKeyOpsJwks = .ok [] := by
  refine ⟨rfl, keyOpsJwks_conforming (.inl rfl), ?_, rfl⟩
  exact ⟨⟨rfl, rfl, rfl, rfl, by decide⟩, .inr ⟨_, rfl, .inr (List.mem_singleton.mpr rfl)⟩⟩

/-! ## The map of the keys -/

section PEM

variable {toPEM : RS256Key → Except Exn String} {ks : List RS256Key} {m m' : KeyMap}

/-- The loop throws exactly if the conversion of one of the keys does. -/
theorem insertPubKeysPEM_throws :
    (∃ e, insertPubKeysPEM toPEM ks m = .error e) ↔ ∃ k ∈ ks, ∃ e, toPEM k = .error e := by
  induction ks generalizing m with
  | nil => simp [insertPubKeysPEM]
  | cons k ks ih =>
    simp only [insertPubKeysPEM, List.mem_cons, exists_eq_or_imp]
    cases hpem : toPEM k with
    | error e => simp
    | ok pem => simp [ih]

/-- The PEM text under an id is that of the last key with it, and that of the map before if
    no key has it. -/
theorem insertPubKeysPEM_latest (h : insertPubKeysPEM toPEM ks m = .ok m') (id : String) :
    match latest RS256Key.id id ks with
    | some k => ∃ pem, toPEM k = .ok pem ∧ m'[id]? = some pem
    | none => m'[id]? = m[id]? := by
  induction ks generalizing m with
  | nil =>
    cases h
    rfl
  | cons k ks ih =>
    simp only [insertPubKeysPEM] at h
    split at h
    · cases h
    · rename_i pem hpem
      have hrest := ih h
      rw [latest_cons]
      cases hlatest : latest RS256Key.id id ks with
      | some k' =>
        -- A later key has the id, and overwrites this one
        rw [hlatest] at hrest
        exact hrest
      | none =>
        rw [hlatest] at hrest
        dsimp only at hrest
        -- No later key has the id, so it is this key or none
        rw [Std.ExtTreeMap.getElem?_insert] at hrest
        by_cases hid : k.id = id
        · simp only [Option.none_or, hid, if_true]
          rw [hid, if_pos (Std.LawfulEqCmp.compare_eq_iff_eq.mpr rfl)] at hrest
          exact ⟨pem, hpem, hrest⟩
        · simp only [Option.none_or, hid, if_false]
          rw [hrest, if_neg (fun heq => hid (Std.LawfulEqCmp.eq_of_compare heq))]

/-- **The PEM texts of a JWKS.** Whatever the text is and whatever the conversion of a key
    does: `extractPubKeysPEM` throws exactly if the text is no JSON or the conversion of some
    accepted key throws; otherwise its map has the ids of the accepted keys, each with the PEM
    text of the last accepted key with this id. -/
theorem extractPubKeysPEM_spec (lib : NlohmannJson) (toPEM : RS256Key → Except Exn String)
    (text : String) :
    ((∃ e, extractPubKeysPEM lib toPEM text = .error e) ↔
      (∃ what, lib.parse text = .error what) ∨
      ∃ ks, parseRS256KeysByAccess lib text = .ok ks ∧ ∃ k ∈ ks, ∃ e, toPEM k = .error e) ∧
    ∀ keys, extractPubKeysPEM lib toPEM text = .ok keys →
      ∃ ks, parseRS256KeysByAccess lib text = .ok ks ∧
        (∀ id, id ∈ keys ↔ ∃ k ∈ ks, k.id = id) ∧
        ∀ id k, latest RS256Key.id id ks = some k →
          ∃ pem, toPEM k = .ok pem ∧ keys[id]? = some pem := by
  rw [parseRS256KeysByAccess_eq]
  unfold extractPubKeysPEM
  cases hparse : lib.parse text with
  | error what =>
    simp only [parseRS256Keys, hparse]
    refine ⟨⟨fun _ => .inl ⟨what, rfl⟩, fun _ => ⟨_, rfl⟩⟩, ?_⟩
    intro keys hkeys
    cases hkeys
  | ok j =>
    obtain ⟨ks, hks⟩ : ∃ ks, parseRS256Keys lib text = .ok ks := by
      unfold parseRS256Keys
      rw [hparse]
      dsimp only
      cases j.find? "keys" <;> exact ⟨_, rfl⟩
    rw [hks]
    -- The text is JSON, so only a conversion can throw
    simp only [insertPubKeysPEM_throws, reduceCtorEq, exists_false, false_or, Except.ok.injEq,
      exists_eq_left', true_and]
    intro keys hkeys
    constructor
    · intro id
      rw [insertPubKeysPEM_mem hkeys]
      simp
    · intro id k hlast
      have hpem := insertPubKeysPEM_latest hkeys id
      rw [hlast] at hpem
      exact hpem

end PEM

end SapperBricks
