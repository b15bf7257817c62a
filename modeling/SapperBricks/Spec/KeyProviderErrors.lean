import SapperBricks.Spec.JwksKeys
import SapperBricks.Spec.JwtAuthErrors

/-!
# Failed refreshes and empty key ids

A provider is told whether it is to throw when a refresh fails. This file follows that
flag from the constructors through every lookup of a run, and what becomes of a lookup
without a key id.

## Key results

- `lookup_exec_kept`, `lookup_exec_failed`, `lookup_exec_refreshed`: a section by what
  becomes of its refresh
- `error_mode_iff`: the runs in which the flag is respected
- `empty_keyId_not_found`: no lookup of the empty key id finds a key
-/

namespace SapperBricks.RestJwksRSAKeyProvider

open Interleaving

/-! ## One section -/

/-- The section of a lookup that refreshes the cache. -/
def Refreshes (l : LookupLoc) (s : State) : Prop :=
  ∃ keyId, l = .exclusive keyId ∧ s.data[keyId]? = none

/-- The `n`-th refresh fails: the response cannot be had, or no keys can be had from it. -/
def FailedRefresh (provider : RestJwksRSAKeyProvider) (n : Nat) : Prop :=
  ∃ e, provider.fetchKeys n = .error e

variable {self : RestJwksRSAKeyProvider} {l : LookupLoc} {s : State}

/-- A section that refreshes nothing changes nothing, and if it ends its lookup it has found
    the key. -/
theorem lookup_exec_kept (h : ¬Refreshes l s) :
    (self.lookup.exec l s).2 = s ∧
    ∀ r, (self.lookup.exec l s).1 = .inr r → ∃ pem, r = .ok pem := by
  cases l with
  | shared keyId =>
    cases hk : s.data[keyId]? with
    | some pem =>
      rw [lookup_exec_hit hk]
      refine ⟨rfl, ?_⟩
      intro r hr
      exact ⟨pem, (Sum.inr.inj hr).symm⟩
    | none =>
      rw [lookup_exec_miss hk]
      exact ⟨rfl, nofun⟩
  | exclusive keyId =>
    obtain ⟨pem, _, heq⟩ | ⟨hnone, _⟩ := self.exclusiveLookup_spec keyId s
    · rw [lookup_exec_exclusive, heq]
      refine ⟨rfl, ?_⟩
      intro r hr
      exact ⟨pem, (Sum.inr.inj hr).symm⟩
    · exact absurd ⟨keyId, rfl, hnone⟩ h

/-- A section whose refresh fails throws on, or ends its lookup with the empty string and
    leaves the keys as they were. -/
theorem lookup_exec_failed (h : Refreshes l s) (hfailed : self.FailedRefresh s.providerCalls) :
    (self.lookup.exec l s).2.data = s.data ∧
    ((self.throwOnError = true ∧ ∃ e, (self.lookup.exec l s).1 = .inr (.error e)) ∨
      (self.throwOnError = false ∧ (self.lookup.exec l s).1 = .inr (.ok ""))) := by
  obtain ⟨keyId, rfl, hnone⟩ := h
  obtain ⟨e, he⟩ := hfailed
  rw [lookup_exec_exclusive]
  simp only [exclusiveLookup, hnone, updateKeyCache, he]
  cases hthrow : self.throwOnError with
  | true => simp
  | false => simp [hnone]

/-- A section whose refresh succeeds ends its lookup without an exception. -/
theorem lookup_exec_refreshed (h : Refreshes l s)
    (hfailed : ¬self.FailedRefresh s.providerCalls) :
    ∃ pem, (self.lookup.exec l s).1 = .inr (.ok pem) := by
  obtain ⟨keyId, rfl, hnone⟩ := h
  cases hfetch : self.fetchKeys s.providerCalls with
  | error e => exact absurd ⟨e, hfetch⟩ hfailed
  | ok keys =>
    rw [lookup_exec_exclusive]
    simp only [exclusiveLookup, hnone, updateKeyCache, hfetch]
    cases hk : keys[keyId]? with
    | none => exact ⟨"", rfl⟩
    | some pem => exact ⟨pem, rfl⟩

/-- A section refreshes if it calls the provider, once. -/
theorem lookup_exec_providerCalls (l : LookupLoc) (s : State) :
    (Refreshes l s ∧ (self.lookup.exec l s).2.providerCalls = s.providerCalls + 1) ∨
    (¬Refreshes l s ∧ (self.lookup.exec l s).2 = s) := by
  by_cases h : Refreshes l s
  · obtain ⟨keyId, rfl, hnone⟩ := h
    obtain ⟨pem, hpem, _⟩ | ⟨_, hstate, _⟩ := self.exclusiveLookup_spec keyId s
    · rw [hnone] at hpem
      exact nomatch hpem
    · refine .inl ⟨⟨keyId, rfl, hnone⟩, ?_⟩
      rw [lookup_exec_exclusive, hstate]
      exact (self.updateKeyCache_spec s).1
  · exact .inr ⟨h, (lookup_exec_kept h).1⟩

/-! ## Runs -/

section Runs

variable {ι : Type} [DecidableEq ι] {keyId : ι → String} {s₀ : State} {tr : List (Event ι)}
  {c : Config ι LookupLoc State (Except Exn String)}

/-- A lookup made a refresh that failed. -/
def FailedIn {ι : Type} (self : RestJwksRSAKeyProvider) (xs : List (Section ι LookupLoc State))
    (i : ι) : Prop :=
  ∃ x ∈ xs, x.call = i ∧ Refreshes x.loc x.before ∧ self.FailedRefresh x.before.providerCalls

/-- A lookup throws exactly if errors are thrown on and the refresh it made failed. -/
theorem throws_iff (h : self.lookup.run keyId (.initial s₀) tr = some c) {i : ι}
    {r : Except Exn String} (hr : (c.phase i).outcome? = some r) :
    (∃ e, r = .error e) ↔ self.throwOnError = true ∧
      self.FailedIn (self.lookup.sections keyId (.initial s₀) tr) i := by
  have houtcome := fun i r => outcome?_eq_some (i := i) (r := r) (fun _ => rfl) h
  constructor
  · intro hthrew
    obtain ⟨e, rfl⟩ := hthrew
    obtain ⟨x, hx, hcall, hends⟩ := (houtcome i _).mp hr
    -- The section that ended it has neither kept nor refreshed the cache
    by_cases hrefreshes : Refreshes x.loc x.before
    · by_cases hfailed : self.FailedRefresh x.before.providerCalls
      · obtain ⟨-, ⟨hthrow, -⟩ | ⟨-, hquiet⟩⟩ := lookup_exec_failed hrefreshes hfailed
        · exact ⟨hthrow, x, hx, hcall, hrefreshes, hfailed⟩
        · rw [hends] at hquiet
          exact nomatch Sum.inr.inj hquiet
      · obtain ⟨pem, hpem⟩ := lookup_exec_refreshed hrefreshes hfailed
        rw [hends] at hpem
        exact nomatch Sum.inr.inj hpem
    · obtain ⟨pem, hpem⟩ := (lookup_exec_kept hrefreshes).2 _ hends
      exact nomatch hpem
  · intro hfailed
    obtain ⟨hthrow, x, hx, hcall, hrefreshes, hfailed⟩ := hfailed
    obtain ⟨-, ⟨-, e, he⟩ | ⟨hquiet, -⟩⟩ := lookup_exec_failed hrefreshes hfailed
    · have he' := (houtcome i _).mpr ⟨x, hx, hcall, he⟩
      rw [hr] at he'
      exact ⟨e, Option.some.inj he'⟩
    · rw [hthrow] at hquiet
      exact nomatch hquiet

/-- The refreshes that a run makes come one after the other. -/
theorem section_refresh_lt (h : self.lookup.run keyId (.initial s₀) tr = some c) :
    s₀.providerCalls ≤ c.shared.providerCalls ∧
    (∀ x ∈ self.lookup.sections keyId (.initial s₀) tr, Refreshes x.loc x.before →
      x.before.providerCalls < c.shared.providerCalls) ∧
    ∀ n, s₀.providerCalls ≤ n → n < c.shared.providerCalls →
      ∃ x ∈ self.lookup.sections keyId (.initial s₀) tr, Refreshes x.loc x.before ∧
        x.before.providerCalls = n := by
  apply run_sections (J := fun _ _ => True) (fun _ => trivial) (fun _ _ _ _ _ _ => trivial)
    (fun _ => rfl) (P := fun xs _ s => s₀.providerCalls ≤ s.providerCalls ∧
      (∀ x ∈ xs, Refreshes x.loc x.before → x.before.providerCalls < s.providerCalls) ∧
      ∀ n, s₀.providerCalls ≤ n → n < s.providerCalls →
        ∃ x ∈ xs, Refreshes x.loc x.before ∧ x.before.providerCalls = n) _ _ h
  · refine ⟨Nat.le_refl _, nofun, ?_⟩
    intro n hle hlt
    exact absurd hle (Nat.not_le.mpr hlt)
  · intro xs o i l s ⟨hle, hbefore, hmade⟩ _ _
    -- The section makes the next refresh, or none
    obtain ⟨hrefreshes, hcalls⟩ | ⟨hkept, hstate⟩ := self.lookup_exec_providerCalls l s
    · rw [hcalls]
      refine ⟨by omega, ?_, ?_⟩
      · intro x hx hx'
        obtain hx | hx := List.mem_append.mp hx
        · have hlt := hbefore x hx hx'
          omega
        · rw [List.mem_singleton.mp hx]
          exact Nat.lt_succ_self _
      · intro n hn hlt
        -- The last refresh is this section's
        by_cases hlast : n = s.providerCalls
        · subst hlast
          exact ⟨⟨i, l, s⟩, List.mem_append_right _ List.mem_cons_self, hrefreshes, rfl⟩
        · obtain ⟨x, hx, hx'⟩ := hmade n hn (by omega)
          exact ⟨x, List.mem_append_left _ hx, hx'⟩
    · rw [hstate]
      refine ⟨hle, ?_, ?_⟩
      · intro x hx hx'
        obtain hx | hx := List.mem_append.mp hx
        · exact hbefore x hx hx'
        · rw [List.mem_singleton.mp hx] at hx'
          exact absurd hx' hkept
      · intro n hn hlt
        obtain ⟨x, hx, hx'⟩ := hmade n hn hlt
        exact ⟨x, List.mem_append_left _ hx, hx'⟩

/-! ## The error mode -/

omit [DecidableEq ι] in
/-- The constructor throws exactly if errors are thrown on and its refresh fails. -/
theorem construct_throws_iff :
    (∃ e, self.construct = .error e) ↔ self.throwOnError = true ∧ self.FailedRefresh 0 := by
  unfold construct updateKeyCache FailedRefresh
  cases self.fetchKeys 0 with
  | ok keys => simp
  | error e => cases self.throwOnError <;> simp

omit [DecidableEq ι] in
/-- The constructor refreshes once. -/
theorem construct_providerCalls (h : self.construct = .ok s₀) : s₀.providerCalls = 1 := by
  have hcalls := (self.updateKeyCache_spec ⟨∅, 0, []⟩).1
  unfold construct at h
  split at h
  · exact nomatch h
  · rename_i s hs
    cases h
    rw [hs] at hcalls
    exact hcalls

/-- A provider respects the error mode in a run: its constructor and its lookups throw
    exactly if they are to and their own refresh failed, and if they are not to, a lookup
    whose refresh failed gives the empty string and leaves the keys for the lookups that
    follow. -/
structure KeepsErrorMode (provider : RestJwksRSAKeyProvider) (throwOnError : Bool)
    (keyId : ι → String) (tr : List (Event ι)) : Prop where
  construct : (∃ e, provider.construct = .error e) ↔
    throwOnError = true ∧ provider.FailedRefresh 0
  throws : ∀ s₀ c, provider.construct = .ok s₀ →
    provider.lookup.run keyId (.initial s₀) tr = some c →
      ∀ i r, (c.phase i).outcome? = some r → ((∃ e, r = .error e) ↔ throwOnError = true ∧
        provider.FailedIn (provider.lookup.sections keyId (.initial s₀) tr) i)
  quiet : throwOnError = false → ∀ s₀ c, provider.construct = .ok s₀ →
    provider.lookup.run keyId (.initial s₀) tr = some c →
      ∀ x ∈ provider.lookup.sections keyId (.initial s₀) tr, Refreshes x.loc x.before →
        provider.FailedRefresh x.before.providerCalls →
          (c.phase x.call).outcome? = some (.ok "") ∧
          (provider.lookup.exec x.loc x.before).2.data = x.before.data

/-- The refreshes of the constructor and of a run of lookups after it. -/
def refreshes (self : RestJwksRSAKeyProvider) (keyId : ι → String) (tr : List (Event ι)) : Nat :=
  match self.construct with
  | .error _ => 1
  | .ok s₀ =>
    match self.lookup.run keyId (.initial s₀) tr with
    | none => 1
    | some c => c.shared.providerCalls

/-- A run of a provider that was constructed makes the refreshes of its end, of which the
    constructor made one. -/
theorem refreshes_eq (h₀ : self.construct = .ok s₀)
    (h : self.lookup.run keyId (.initial s₀) tr = some c) :
    self.refreshes keyId tr = c.shared.providerCalls := by
  simp only [refreshes, h₀, h]

theorem refreshes_pos (self : RestJwksRSAKeyProvider) (keyId : ι → String)
    (tr : List (Event ι)) : 0 < self.refreshes keyId tr := by
  unfold refreshes
  cases h₀ : self.construct with
  | error e => exact Nat.zero_lt_one
  | ok s₀ =>
    cases h : self.lookup.run keyId (.initial s₀) tr with
    | none => simp only [h, Nat.zero_lt_one]
    | some c =>
      have hle := (section_refresh_lt h).1
      rw [construct_providerCalls h₀] at hle
      simp only [h]
      exact hle

/-- Every provider respects the mode it holds. -/
theorem keepsErrorMode_throwOnError (self : RestJwksRSAKeyProvider) (keyId : ι → String)
    (tr : List (Event ι)) : self.KeepsErrorMode self.throwOnError keyId tr := by
  refine ⟨construct_throws_iff, fun s₀ c _ h i r hr => throws_iff h hr, ?_⟩
  intro hquiet s₀ c _ h x hx hrefreshes hfailed
  obtain ⟨hdata, ⟨hthrow, -⟩ | ⟨-, hends⟩⟩ := lookup_exec_failed hrefreshes hfailed
  · rw [hquiet] at hthrow
    exact nomatch hthrow
  · exact ⟨(outcome?_eq_some (fun _ => rfl) h).mpr ⟨x, hx, rfl, hends⟩, hdata⟩

/-- Where no refresh fails the mode does not matter. -/
theorem keepsErrorMode_of_refreshed (throwOnError : Bool)
    (h : ∀ n, n < self.refreshes keyId tr → ¬self.FailedRefresh n) :
    self.KeepsErrorMode throwOnError keyId tr := by
  have hsections : ∀ s₀ c, self.construct = .ok s₀ →
      self.lookup.run keyId (.initial s₀) tr = some c →
      ∀ x ∈ self.lookup.sections keyId (.initial s₀) tr, Refreshes x.loc x.before →
        ¬self.FailedRefresh x.before.providerCalls := by
    intro s₀ c h₀ hrun x hx hrefreshes
    -- The refreshes of its lookups are among those of the run
    have hlt := (section_refresh_lt hrun).2.1 x hx hrefreshes
    rw [← refreshes_eq h₀ hrun] at hlt
    exact h _ hlt
  refine ⟨?_, ?_, ?_⟩
  · rw [construct_throws_iff]
    have hfirst := h 0 (self.refreshes_pos keyId tr)
    exact iff_of_false (fun h => hfirst h.2) (fun h => hfirst h.2)
  · intro s₀ c h₀ hrun i r hr
    have hnone : ¬self.FailedIn (self.lookup.sections keyId (.initial s₀) tr) i := by
      intro hfailed
      obtain ⟨x, hx, -, hrefreshes, hfailed⟩ := hfailed
      exact hsections s₀ c h₀ hrun x hx hrefreshes hfailed
    rw [throws_iff hrun hr]
    exact iff_of_false (fun h => hnone h.2) (fun h => hnone h.2)
  · intro _ s₀ c h₀ hrun x hx hrefreshes hfailed
    exact absurd hfailed (hsections s₀ c h₀ hrun x hx hrefreshes)

/-- A provider that throws on errors respects the other mode only where no refresh fails. -/
theorem KeepsErrorMode.refreshed (h : self.KeepsErrorMode false keyId tr)
    (hthrow : self.throwOnError = true) {n : Nat} (hn : n < self.refreshes keyId tr) :
    ¬self.FailedRefresh n := by
  intro hfailed
  -- The constructor does not throw, so there is a run
  have hfirst : ¬self.FailedRefresh 0 := by
    intro hfirst
    have hthrew := construct_throws_iff.mpr ⟨hthrow, hfirst⟩
    exact Bool.false_ne_true (h.construct.mp hthrew).1
  have hpos : 0 < n := Nat.pos_of_ne_zero fun hzero => hfirst (hzero ▸ hfailed)
  unfold refreshes at hn
  cases h₀ : self.construct with
  | error e =>
    simp only [h₀] at hn
    omega
  | ok s₀ =>
    cases hrun : self.lookup.run keyId (.initial s₀) tr with
    | none =>
      simp only [h₀, hrun] at hn
      omega
    | some c =>
      simp only [h₀, hrun] at hn
      -- The lookup that made this refresh throws
      have hone := construct_providerCalls h₀
      obtain ⟨x, hx, hrefreshes, rfl⟩ := (section_refresh_lt hrun).2.2 n (by omega) hn
      obtain ⟨-, ⟨-, e, he⟩ | ⟨hquiet, -⟩⟩ := lookup_exec_failed hrefreshes hfailed
      · have houtcome := (outcome?_eq_some (fun _ => rfl) hrun).mpr ⟨x, hx, rfl, he⟩
        have hthrew := (h.throws s₀ c h₀ hrun x.call _ houtcome).mp ⟨e, rfl⟩
        exact Bool.false_ne_true hthrew.1
      · rw [hthrow] at hquiet
        exact nomatch hquiet

/-- What a provider is constructed from: the address of a JWKS, whose `n`-th request ends
    with `get n`, or a callable. -/
inductive JwksSource where
  | uri (get : Nat → Except Exn HttpResult)
  | callable (jwksProvider : Nat → Except Exn String)

/-- The constructor for a source. -/
def JwksSource.provider (json : NlohmannJson) (toPEM : RS256Key → Except Exn String)
    (throwOnError : Bool) : JwksSource → RestJwksRSAKeyProvider
  | .uri get => ofUri json toPEM get throwOnError
  | .callable jwksProvider => ofProvider json toPEM jwksProvider throwOnError

/-- **Where the error mode is respected.** In every run, from the construction on, a provider
    respects the mode it was constructed with exactly if it was constructed from a callable,
    or is to throw on errors, or no refresh of the run fails. -/
theorem error_mode_iff (json : NlohmannJson) (toPEM : RS256Key → Except Exn String)
    (source : JwksSource) (throwOnError : Bool) (keyId : ι → String) (tr : List (Event ι)) :
    (source.provider json toPEM throwOnError).KeepsErrorMode throwOnError keyId tr ↔
      (∃ jwksProvider, source = .callable jwksProvider) ∨ throwOnError = true ∨
        ∀ n, n < (source.provider json toPEM throwOnError).refreshes keyId tr →
          ¬(source.provider json toPEM throwOnError).FailedRefresh n := by
  cases source with
  | callable jwksProvider =>
    exact iff_of_true (keepsErrorMode_throwOnError _ keyId tr) (.inl ⟨_, rfl⟩)
  | uri get =>
    cases throwOnError with
    | true => exact iff_of_true (keepsErrorMode_throwOnError _ keyId tr) (.inr (.inl rfl))
    | false =>
      constructor
      -- The address is taken with `throw_on_error` true, whatever was asked for
      · intro h
        exact .inr (.inr fun n hn => h.refreshed rfl hn)
      · intro h
        obtain ⟨_, heq⟩ | hthrow | hrefreshed := h
        · exact nomatch heq
        · exact nomatch hthrow
        · exact keepsErrorMode_of_refreshed false hrefreshed

/-- A JWKS that cannot be requested makes the constructor throw, although errors were not to
    be thrown on. -/
theorem error_mode_uri_throws :
    (∃ e, (JwksSource.provider testJson testProvider.toPEMPubKey false
      (.uri fun _ => .ok (.failed "Connection"))).construct = .error e) ∧
    ¬(JwksSource.provider testJson testProvider.toPEMPubKey false
      (.uri fun _ => .ok (.failed "Connection"))).KeepsErrorMode false testKeyId [] := by
  have hthrew : ∃ e, (JwksSource.provider testJson testProvider.toPEMPubKey false
      (.uri fun _ => .ok (.failed "Connection"))).construct = .error e := ⟨_, rfl⟩
  refine ⟨hthrew, ?_⟩
  intro h
  exact Bool.false_ne_true (h.construct.mp hthrew).1

/-! ## The empty key id -/

omit [DecidableEq ι] in
/-- No key is stored under the empty id, since none with it is accepted. -/
theorem CacheHoldsLatest.empty_keyId (h : self.CacheHoldsLatest s) : s.data[""]? = none := by
  cases hpem : s.data[""]? with
  | none => rfl
  | some pem =>
    obtain ⟨n, -, husable, -⟩ | ⟨-, -, hempty⟩ := h
    · obtain ⟨jwks, ks, k, -, hparse, hk, hid, -⟩ := husable.getElem? hpem
      obtain ⟨key, hkey⟩ := mem_parseRS256Keys self.json hparse hk
      exact absurd hid hkey.nonempty.1
    · rw [hempty, Std.ExtTreeMap.getElem?_empty] at hpem
      exact nomatch hpem

omit [DecidableEq ι] in
/-- A section of a lookup of the empty key id finds no key. -/
theorem lookup_exec_empty_keyId (h : self.CacheHoldsLatest s) (hl : l.keyId = "") {pem : String}
    (hends : (self.lookup.exec l s).1 = .inr (.ok pem)) : pem = "" := by
  by_contra hne
  have hentry := lookup_exec_found hends hne
  rw [hl, (h.exec l).empty_keyId] at hentry
  exact nomatch hentry

omit [DecidableEq ι] in
/-- Nor does a lookup that no other thread gets between. -/
theorem lookupAlone_empty_keyId (h : self.CacheHoldsLatest s) {pem : String}
    (hends : (self.lookupAlone "" s).1 = .ok pem) : pem = "" := by
  have hnone := h.empty_keyId
  have hexclusive : (self.exclusiveLookup "" s).1 = .ok pem := by
    simpa only [lookupAlone, sharedLookup, hnone] using hends
  apply lookup_exec_empty_keyId h (l := .exclusive "") rfl
  rw [lookup_exec_exclusive, hexclusive]

/-- **The empty key id is never found.** In every state that lookups of any number of threads
    reach from a constructed provider, with keys in the cache or without and whatever the
    refreshes result in: no lookup of the empty key id that is over gave anything but the
    empty string or an exception, none that is made now does, and a hook whose keys come from
    the provider answers a token without a string `kid` with nothing but `key not found`. -/
theorem empty_keyId_not_found (h₀ : self.construct = .ok s₀)
    (h : self.lookup.run keyId (.initial s₀) tr = some c) :
    (∀ i, keyId i = "" → ∀ pem, (c.phase i).outcome? = some (.ok pem) → pem = "") ∧
    (∀ pem, (self.lookupAlone "" c.shared).1 = .ok pem → pem = "") ∧
    ∀ (hook : JwtAuthRequestHook State) token encStr headerJson alg,
      hook.DecodesHeader token encStr headerJson → headerJson.stringAt? "alg" = some alg →
      headerJson.stringAt? "kid" = none →
      hook.parameters.keyProvider[alg]? = some self.lookupAlone →
        ∀ r s, hook.decodeToken token c.shared = (.ok r, s) → r = .error "key not found" := by
  refine ⟨?_, ?_, ?_⟩
  · apply (run_sections (J := fun a l => l.keyId = a) (fun _ => rfl) lookup_goesOn_keyId
      (fun _ => rfl) (P := fun _ o s => self.CacheHoldsLatest s ∧
        ∀ i, keyId i = "" → ∀ pem, o i = some (.ok pem) → pem = "")
      ⟨construct_cacheHoldsLatest h₀, nofun⟩ _ h).2
    intro _ o i l s ⟨hholds, hempty⟩ _ hkey
    refine ⟨hholds.exec l, ?_⟩
    intro j hj pem hpem
    by_cases hji : j = i
    · subst hji
      rw [Function.update_self, Sum.getRight?_eq_some_iff] at hpem
      exact lookup_exec_empty_keyId hholds (hkey.trans hj) hpem
    · rw [Function.update_of_ne hji] at hpem
      exact hempty j hj pem hpem
  · intro pem hpem
    exact lookupAlone_empty_keyId (run_cacheHoldsLatest h₀ h) hpem
  · intro hook token encStr headerJson alg hheader halg hkid hprovider r s hr
    cases htyp : headerJson.stringAt? "typ" with
    | none =>
      rw [JwtAuthRequestHook.decodeToken_of_typ_none hheader halg htyp] at hr
      exact nomatch (congrArg Prod.fst hr)
    | some typ =>
      cases hkey : self.lookupAlone ((headerJson.stringAt? "kid").getD "") c.shared with
      | mk result s' =>
        cases result with
        | error e =>
          rw [JwtAuthRequestHook.decodeToken_of_key_error hheader halg htyp hprovider hkey] at hr
          exact nomatch (congrArg Prod.fst hr)
        | ok pem =>
          -- The hook asks for the empty key id
          have hempty : pem = "" := by
            apply lookupAlone_empty_keyId (run_cacheHoldsLatest h₀ h)
            rw [hkid] at hkey
            exact congrArg Prod.fst hkey
          subst hempty
          rw [JwtAuthRequestHook.decodeToken_of_key_empty hheader halg htyp hprovider hkey] at hr
          cases hr
          rfl

/-- The empty key id is looked up on the provider of the tests. -/
theorem empty_keyId_not_found_test :
    ∃ c, testProvider.lookup.run (fun _ : Unit => "") (.initial testState)
      [.call (), .exec (), .exec ()] = some c ∧
      ∀ pem, (c.phase ()).outcome? = some (.ok pem) → pem = "" := by
  have h₀ : testProvider.construct = .ok testState := rfl
  have hstarts : (testProvider.lookup.run (fun _ : Unit => "") (.initial testState)
      [.call (), .exec (), .exec ()]).isSome = true := rfl
  obtain ⟨c, h⟩ := Option.isSome_iff_exists.mp hstarts
  exact ⟨c, h, (empty_keyId_not_found h₀ h).1 () rfl⟩

/-- With one key in the cache, the lookup of the empty key id gives the empty string. -/
theorem empty_keyId_single_key :
    testProvider.construct = .ok testState ∧ testState.data["key_0"]? = some testPEM ∧
      (testProvider.lookupAlone "" testState).1 = .ok "" :=
  ⟨rfl, rfl, rfl⟩

end Runs

end SapperBricks.RestJwksRSAKeyProvider
