import SapperBricks.Spec.KeyCache

/-!
# How often the JWKS provider is called

Many threads may miss the cache before the first of them refreshes it; the second look
under the exclusive lock makes one call of the provider serve them all. This file counts
the calls: at most one for each lookup, at most one for all lookups of keys that the
provider keeps answering with, and exactly one for each lookup of a key it never has.
-/

namespace SapperBricks.RestJwksRSAKeyProvider

open Interleaving

variable {self : RestJwksRSAKeyProvider} {ι : Type} [DecidableEq ι] {keyId : ι → String}

/-- The calls of the provider made by the selected lookups in the sections of a run. -/
abbrev callsBy (self : RestJwksRSAKeyProvider) {ι : Type} (sel : ι → Bool)
    (xs : List (Section ι LookupLoc State)) : Nat :=
  self.lookup.growth State.providerCalls sel xs

/-- Whether the key id of a lookup is among the accepted ones. -/
abbrev accepts {ι : Type} (keyId : ι → String) (ks : List RS256Key) (i : ι) : Bool :=
  keyId i ∈ ks.map RS256Key.id

omit [DecidableEq ι] in
/-- One more section adds the calls it makes, if its lookup is selected. -/
theorem callsBy_concat (sel : ι → Bool) (xs : List (Section ι LookupLoc State)) (i : ι)
    (l : LookupLoc) (s : State) :
    self.callsBy sel (xs ++ [⟨i, l, s⟩]) = self.callsBy sel xs +
      if sel i then (self.lookup.exec l s).2.providerCalls - s.providerCalls else 0 :=
  growth_concat ..

/-! ## One section -/

/-- A section calls the provider at most once. -/
theorem lookup_exec_calls (l : LookupLoc) (s : State) :
    (self.lookup.exec l s).2.providerCalls = s.providerCalls ∨
    (self.lookup.exec l s).2.providerCalls = s.providerCalls + 1 := by
  obtain heq | ⟨_, _, _, heq⟩ := self.lookup_exec l s <;> rw [heq]
  · exact .inl rfl
  · exact .inr (self.updateKeyCache_spec s).1

/-- A section that goes on does not call the provider. -/
theorem lookup_exec_goesOn {l l' : LookupLoc} {s : State}
    (h : (self.lookup.exec l s).1 = .inl l') : (self.lookup.exec l s).2 = s :=
  (lookup_atomic.goesOn l s l' _ (Prod.ext h rfl)).2

/-- A section after which the provider answers with `jwks` publishes its keys or calls
    nothing. -/
theorem lookup_exec_answered {jwks : String} {ks : List RS256Key} {keys : KeyMap}
    (hu : self.UsableJwks jwks ks keys) {l : LookupLoc} {s : State}
    (hjwks : self.jwksProvider s.providerCalls = .ok jwks) :
    (self.lookup.exec l s).2 = s ∨
    ((∃ k, l = .exclusive k ∧ s.data[k]? = none) ∧
      (self.lookup.exec l s).2.data = keys ∧
      (self.lookup.exec l s).2.providerCalls = s.providerCalls + 1) := by
  obtain heq | ⟨k, hl, hnone, heq⟩ := self.lookup_exec l s
  · exact .inl heq
  · rw [heq]
    have husable : self.Usable s.providerCalls keys := ⟨jwks, ks, hjwks, hu⟩
    -- The refresh cannot fail on a usable JWKS
    obtain ⟨hcalls, ⟨keys', hu', _, hdata⟩ | ⟨hno, _⟩⟩ := self.updateKeyCache_spec s
    · exact .inr ⟨⟨k, hl, hnone⟩, hdata.trans (hu'.unique husable), hcalls⟩
    · exact absurd husable (hno keys)

/-! ## At most one call for each lookup -/

/-- A lookup calls the provider at most once, and not before its last section. -/
theorem callsBy_le_one {s₀ : State} {tr : List (Event ι)}
    {c : Config ι LookupLoc State (Except Exn String)}
    (h : self.lookup.run keyId (.initial s₀) tr = some c) (i : ι) :
    self.callsBy (· = i) (self.lookup.sections keyId (.initial s₀) tr) ≤ 1 := by
  -- The invariant says besides that a lookup without outcome has called nothing
  apply (run_sections (J := fun _ _ => True) (fun _ => trivial) (fun _ _ _ _ _ _ => trivial)
    (fun _ => rfl) (P := fun xs o _ => self.callsBy (· = i) xs ≤ 1 ∧
      (o i = none → self.callsBy (· = i) xs = 0)) ⟨Nat.zero_le _, fun _ => rfl⟩ _ h).1
  intro xs o j l s ⟨hle, hzero⟩ hnone _
  rw [callsBy_concat]
  by_cases hji : j = i
  · subst hji
    -- Its earlier sections called nothing; this one calls once at most
    have h0 := hzero hnone
    have hcalls := self.lookup_exec_calls l s
    simp only [decide_true, if_true, h0, Nat.zero_add, Function.update_self]
    have hle' : (self.lookup.exec l s).2.providerCalls - s.providerCalls ≤ 1 := by omega
    apply And.intro hle'
    intro hgoesOn
    cases hx : (self.lookup.exec l s).1 with
    | inl l' => rw [lookup_exec_goesOn hx, Nat.sub_self]
    | inr r =>
      rw [hx] at hgoesOn
      exact nomatch hgoesOn
  · -- The section is of another lookup
    simp only [hji, decide_false, Bool.false_eq_true, if_false, Nat.add_zero]
    apply And.intro hle
    intro hnone'
    rw [Function.update_of_ne (Ne.symm hji)] at hnone'
    exact hzero hnone'

/-- A section that calls the provider is the exclusive one of its lookup, and the key id of
    the lookup was absent. -/
theorem section_calls {s₀ : State} {tr : List (Event ι)}
    {c : Config ι LookupLoc State (Except Exn String)}
    (h : self.lookup.run keyId (.initial s₀) tr = some c) :
    ∀ x ∈ self.lookup.sections keyId (.initial s₀) tr,
      (self.lookup.exec x.loc x.before).2.providerCalls ≠ x.before.providerCalls →
      x.loc = .exclusive (keyId x.call) ∧ x.before.data[keyId x.call]? = none := by
  apply run_sections (J := fun a l => l.keyId = a) (fun _ => rfl) lookup_goesOn_keyId
    (fun _ => rfl) (P := fun xs _ _ => ∀ x ∈ xs,
      (self.lookup.exec x.loc x.before).2.providerCalls ≠ x.before.providerCalls →
      x.loc = .exclusive (keyId x.call) ∧ x.before.data[keyId x.call]? = none)
    (fun x hx => nomatch hx) _ h
  intro xs o i l s hxs _ hkey x hx hcalls
  obtain hx | hx := List.mem_append.mp hx
  · exact hxs x hx hcalls
  · -- The new section: it changes the number of calls, so it made a refresh
    rw [List.mem_singleton.mp hx] at hcalls ⊢
    obtain heq | ⟨k, rfl, hnone, _⟩ := self.lookup_exec l s
    · exact absurd (congrArg State.providerCalls heq) hcalls
    · rw [LookupLoc.keyId] at hkey
      exact ⟨congrArg _ hkey, hkey ▸ hnone⟩

/-! ## Once the provider keeps answering with one JWKS -/

/-- After a call that was answered with `jwks` the cache holds its keys, and lookups of the
    ids it accepts call nothing any more. -/
theorem callsBy_accepted_le_one {jwks : String} {ks : List RS256Key} {keys : KeyMap}
    (hu : self.UsableJwks jwks ks keys) {s₀ : State} {tr tr' : List (Event ι)}
    {c d : Config ι LookupLoc State (Except Exn String)}
    (h : self.lookup.run keyId (.initial s₀) tr = some c)
    (hjwks : ∀ n, c.shared.providerCalls ≤ n → self.jwksProvider n = .ok jwks)
    (h' : self.lookup.run keyId c tr' = some d) :
    self.callsBy (accepts keyId ks) (self.lookup.sections keyId c tr') ≤ 1 := by
  -- The invariant says besides that the cache holds `keys` once there was a call
  suffices hs : c.shared.providerCalls ≤ d.shared.providerCalls ∧
      (self.callsBy (accepts keyId ks) (self.lookup.sections keyId c tr') = 0 ∨
        d.shared.data = keys ∧
        self.callsBy (accepts keyId ks) (self.lookup.sections keyId c tr') ≤ 1) by
    obtain ⟨_, hzero | ⟨_, hle⟩⟩ := hs
    · omega
    · exact hle
  apply run_induction (P := fun tr' d => c.shared.providerCalls ≤ d.shared.providerCalls ∧
    (self.callsBy (accepts keyId ks) (self.lookup.sections keyId c tr') = 0 ∨
      d.shared.data = keys ∧
      self.callsBy (accepts keyId ks) (self.lookup.sections keyId c tr') ≤ 1))
    ⟨Nat.le_refl _, .inl rfl⟩ _ h'
  intro tr' m e d hm ⟨hmono, hcalled⟩ hd
  rw [sections_concat hm hd]
  obtain ⟨i, rfl, _, rfl⟩ | ⟨i, l, rfl, hl, rfl⟩ | ⟨i, r, rfl, _, rfl⟩ := step_cases hd
  · simpa only [Config.section?, Option.toList_none, List.append_nil] using ⟨hmono, hcalled⟩
  · simp only [Config.section?, hl, Option.toList_some, callsBy_concat]
    obtain heq | ⟨⟨k, rfl, hnone⟩, hdata, hcalls⟩ :=
        lookup_exec_answered hu (hjwks m.shared.providerCalls hmono) (l := l) (s := m.shared)
    · simpa only [heq, Nat.sub_self, ite_self, Nat.add_zero] using ⟨hmono, hcalled⟩
    · -- A refresh: the cache now holds the keys of `jwks`
      rw [hcalls, Nat.add_sub_cancel_left]
      refine ⟨by omega, .inr ⟨hdata, ?_⟩⟩
      obtain hzero | ⟨hkeys, hle⟩ := hcalled
      · rw [hzero, Nat.zero_add]
        split <;> omega
      · -- It held them before: so the id that was absent is not an accepted one
        have hrun : self.lookup.run keyId (.initial s₀) (tr ++ tr') = some m := by
          rw [run_append, h]
          exact hm
        have hkey : k = keyId i := running_keyId hrun i _ hl
        have habsent : accepts keyId ks i = false := by
          rw [hkey, hkeys] at hnone
          apply decide_eq_false
          intro hmem
          rw [← hu.mem_iff, Std.ExtTreeMap.mem_iff_isSome_getElem?, hnone] at hmem
          cases hmem
        simpa only [habsent, Bool.false_eq_true, if_false, Nat.add_zero] using hle
  · simpa only [Config.section?, Option.toList_none, List.append_nil] using ⟨hmono, hcalled⟩

/-! ## When the provider answers with one JWKS from the beginning -/

/-- How many of the lookups that have their outcome asked for an id that is not accepted. -/
abbrev absentLookups (self : RestJwksRSAKeyProvider) {ι : Type} (keyId : ι → String)
    (ks : List RS256Key) (xs : List (Section ι LookupLoc State)) : Nat :=
  ((self.lookup.completed xs).map Prod.fst).countP fun i => !accepts keyId ks i

omit [DecidableEq ι] in
/-- One more section adds its lookup, if it ends one of an id that is not accepted. -/
theorem absentLookups_concat (ks : List RS256Key) (xs : List (Section ι LookupLoc State))
    (i : ι) (l : LookupLoc) (s : State) :
    self.absentLookups keyId ks (xs ++ [⟨i, l, s⟩]) = self.absentLookups keyId ks xs +
      if (self.lookup.exec l s).1.isRight && !accepts keyId ks i then 1 else 0 := by
  rw [absentLookups, completed_append, List.map_append, List.countP_append]
  cases hx : (self.lookup.exec l s).1 <;> simp [Interleaving.Proc.completed, Proc.outcome?, hx]

/-- Constructed from a usable JWKS, the cache holds its keys. -/
theorem construct_answered {jwks : String} {ks : List RS256Key} {keys : KeyMap}
    (hu : self.UsableJwks jwks ks keys) (hjwks : self.jwksProvider 0 = .ok jwks) {s₀ : State}
    (h₀ : self.construct = .ok s₀) : s₀.data = keys ∧ s₀.providerCalls = 1 := by
  have hfetch : self.fetchKeys 0 = .ok keys := fetchKeys_eq_ok.mpr ⟨jwks, ks, hjwks, hu⟩
  simp only [construct, updateKeyCache, hfetch] at h₀
  cases h₀
  exact ⟨rfl, rfl⟩

/-- One call fills the cache, and after that exactly the lookups of ids that are not
    accepted call the provider, each once. -/
theorem providerCalls_eq {jwks : String} {ks : List RS256Key} {keys : KeyMap}
    (hu : self.UsableJwks jwks ks keys) (hjwks : ∀ n, self.jwksProvider n = .ok jwks)
    {s₀ : State} (h₀ : self.construct = .ok s₀) {tr : List (Event ι)}
    {c : Config ι LookupLoc State (Except Exn String)}
    (h : self.lookup.run keyId (.initial s₀) tr = some c) :
    c.shared.providerCalls =
      1 + self.absentLookups keyId ks (self.lookup.sections keyId (.initial s₀) tr) := by
  obtain ⟨hdata₀, hcalls₀⟩ := construct_answered hu (hjwks 0) h₀
  apply (run_sections (J := fun a l => l.keyId = a) (fun _ => rfl) lookup_goesOn_keyId
    (fun _ => rfl) (P := fun xs _ s => s.data = keys ∧
      s.providerCalls = 1 + self.absentLookups keyId ks xs) ⟨hdata₀, hcalls₀⟩ _ h).2
  intro xs o i l s ⟨hdata, hcalls⟩ _ hkey
  rw [absentLookups_concat]
  -- With these data, the ids that are in the cache are those that are accepted
  have hmem : accepts keyId ks i = true ↔ (s.data[l.keyId]?).isSome := by
    rw [hkey, hdata, ← Std.ExtTreeMap.mem_iff_isSome_getElem?, hu.mem_iff, decide_eq_true_iff]
  cases l with
  | shared k =>
    rw [LookupLoc.keyId] at hmem
    cases hk : s.data[k]? with
    | some pem =>
      have hacc : accepts keyId ks i = true := hmem.mpr (by rw [hk]; rfl)
      rw [lookup_exec_hit hk, hacc]
      exact ⟨hdata, hcalls⟩
    | none =>
      rw [lookup_exec_miss hk]
      exact ⟨hdata, hcalls⟩
  | exclusive k =>
    rw [LookupLoc.keyId] at hmem
    rw [lookup_exec_exclusive]
    obtain ⟨pem, hpem, heq⟩ | ⟨hnone, hstate, _⟩ := self.exclusiveLookup_spec k s
    · have hacc : accepts keyId ks i = true := hmem.mpr (by rw [hpem]; rfl)
      rw [heq, hacc]
      exact ⟨hdata, hcalls⟩
    · -- A refresh for an id that is not accepted
      have hacc : accepts keyId ks i = false := by
        rw [← Bool.not_eq_true, hmem, hnone]
        exact Bool.false_ne_true
      have hfetch : self.fetchKeys s.providerCalls = .ok keys :=
        fetchKeys_eq_ok.mpr ⟨jwks, ks, hjwks _, hu⟩
      simp only [hstate, updateKeyCache, hfetch, hacc, Sum.isRight_inr, Bool.not_false,
        Bool.and_self, if_true, true_and]
      omega

/-- **One call serves every waiting lookup.** In every run of any number of threads, from
    any state of the cache:
    a lookup calls the provider at most once, and only when its key id was absent under the
    exclusive lock;
    from a moment on from which every call is answered with the same usable JWKS, all
    lookups of the ids it accepts together make at most one call;
    and when it is the answer from the construction on, the number of calls is one more
    than the number of completed lookups of other ids. A lookup is completed when it has
    its outcome; where every such lookup has also returned, they are the returns of the
    trace. -/
theorem provider_called_once {s₀ : State} {tr : List (Event ι)}
    {c : Config ι LookupLoc State (Except Exn String)}
    (h : self.lookup.run keyId (.initial s₀) tr = some c) :
    (∀ i, self.callsBy (· = i) (self.lookup.sections keyId (.initial s₀) tr) ≤ 1) ∧
    (∀ x ∈ self.lookup.sections keyId (.initial s₀) tr,
      (self.lookup.exec x.loc x.before).2.providerCalls ≠ x.before.providerCalls →
      x.loc = .exclusive (keyId x.call) ∧ x.before.data[keyId x.call]? = none) ∧
    ∀ jwks ks keys, self.UsableJwks jwks ks keys →
      (∀ tr' d, (∀ n, c.shared.providerCalls ≤ n → self.jwksProvider n = .ok jwks) →
        self.lookup.run keyId c tr' = some d →
        self.callsBy (accepts keyId ks) (self.lookup.sections keyId c tr') ≤ 1) ∧
      ((∀ n, self.jwksProvider n = .ok jwks) → self.construct = .ok s₀ →
        c.shared.providerCalls =
          1 + self.absentLookups keyId ks (self.lookup.sections keyId (.initial s₀) tr) ∧
        ((∀ i r, c.phase i ≠ .finished r) →
          c.shared.providerCalls = 1 + (returns tr).countP fun i => !accepts keyId ks i)) := by
  refine ⟨callsBy_le_one h, section_calls h, fun jwks ks keys hu => ⟨?_, ?_⟩⟩
  · intro tr' d hjwks h'
    exact callsBy_accepted_le_one hu h hjwks h'
  · intro hjwks h₀
    have hcalls := providerCalls_eq hu hjwks h₀ h
    apply And.intro hcalls
    intro hret
    -- The lookups that have their outcome are those that returned
    rw [hcalls, absentLookups, (completed_perm_returns (fun _ => rfl) h hret).countP_eq]

/-- The JWKS of the tests is usable. -/
theorem testJwks_usable :
    testProvider.UsableJwks testJwks [⟨"key_0", "abc", "def"⟩] testState.data where
  accepted := rfl
  nonempty := List.cons_ne_nil _ _
  converted := rfl

/-- The count on the provider of the tests: one call to construct it and one for the key
    that does not exist. -/
theorem provider_called_once_test :
    ∃ c, testProvider.lookup.run testKeyId (.initial testState) testTrace = some c ∧
      c.shared.providerCalls = 1 + (returns testTrace).countP fun i =>
        !accepts testKeyId [⟨"key_0", "abc", "def"⟩] i :=
  ⟨_, rfl, (((provider_called_once rfl).2.2 _ _ _ testJwks_usable).2 (fun _ => rfl) rfl).2
    fun i _ => by cases i <;> exact nofun⟩

end SapperBricks.RestJwksRSAKeyProvider
