import SapperBricks.Native.KeyConversion
import SapperBricks.Spec.KeyRotation

/-!
# What the conversion of keys does with objects of OpenSSL

Whatever calls of OpenSSL fail, in whatever conversions, no object is used or freed that is not
there, and every object is freed but the numbers of a key: they are released to a builder that
does not take them. So every key that is converted loses two numbers, and a service loses them with
every request of the JWKS, for which a token with an unknown key id is enough.

## Key results

- `Conversion.toPEMPubKey_meets`: what becomes of the objects of one conversion
- `OpenSSL.extractPubKeys_run`: those of all keys of a JWKS
- `SecuredService.numbers_lost`: those of a service that runs
-/

namespace SapperBricks

open Handles

namespace Conversion

variable {self : Conversion} {pem : String} {l : Ledger Object}

/-! ## One key -/

/-- What `writeKey` comes to. -/
def written (self : Conversion) (pem : String) : Except Exn String :=
  if !self.openMemstream then .error (.runtimeError "unable to open memory stream")
  else if self.pemWritePUBKEY ≤ 0 ∨ self.fflush ≠ 0 then
    .error (.runtimeError "OSSL: unable write key")
  else .ok pem

/-- What `makeKey` comes to, if there are parameters. -/
def made (self : Conversion) (pem : String) : Except Exn String :=
  if !self.toParam then .error (.runtimeError "OSSL: unable to create params")
  else if !self.ctx then .error (.runtimeError "OSSL: unable to create context")
  else if self.fromdataInit ≤ 0 ∨ self.fromdata ≤ 0 then
    .error (.runtimeError "OSSL: unable to initialize key")
  else self.written pem

/-- What `makeParams` comes to. -/
def built (self : Conversion) (pem : String) : Except Exn String :=
  if !self.paramBld ∨ self.pushBN.1 = 0 ∨ self.pushBN.2 = 0 then
    .error (.runtimeError "OSSL: unable to init the param builder")
  else self.made pem

/-- What `toPEM_PubKey` returns or throws. -/
def result (self : Conversion) (pem : String) : Except Exn String :=
  if !self.bn.1 then .error (.runtimeError "OSSL: unable to convert the modulus to a bignum")
  else if !self.bn.2 then
    .error (.runtimeError "OSSL: unable to convert the exponent to a bignum")
  else self.built pem

/-- What it throws, which does not depend on the key. -/
def failure (self : Conversion) : Option Exn :=
  match self.result "" with
  | .error e => some e
  | .ok _ => none

/-- It throws that, or it returns the PEM text. -/
theorem result_eq : self.result pem =
    match self.failure with
    | some e => .error e
    | none => .ok pem := by
  -- Only what is returned in the end depends on the key
  unfold failure result built made written
  repeat' split
  all_goals simp_all

/-- How many numbers are given to the builder, if there are both. -/
def given (self : Conversion) : Nat :=
  if !self.paramBld then 0 else if self.pushBN.1 = 0 then 1 else 2

/-- How many numbers are released: those that are given to the builder. -/
def leaks (self : Conversion) : Nat :=
  if self.bn.1 && self.bn.2 then self.given else 0

/-- The ledger after a conversion: this many numbers more are released, and nobody owns them. -/
def Lost (l : Ledger Object) (count : Nat) (l' : Ledger Object) : Prop :=
  ∃ numbers : List (Handle Object), l' = l.lose numbers ∧ (∀ x ∈ numbers, x.kind = .bignum) ∧
    numbers.length = count

theorem lost_none : Lost l 0 l :=
  ⟨[], l.lose_nil.symm, fun _ hx => absurd hx List.not_mem_nil, rfl⟩

/-- The numbers of two conversions. -/
theorem Lost.trans {l' l'' : Ledger Object} {a b : Nat} (h : Lost l a l') (h' : Lost l' b l'') :
    Lost l (a + b) l'' := by
  obtain ⟨xs, rfl, hxs, rfl⟩ := h
  obtain ⟨ys, rfl, hys, rfl⟩ := h'
  -- What the second one releases stands in front
  refine ⟨ys ++ xs, l.lose_lose xs ys, fun x hx => ?_, ?_⟩
  · exact (List.mem_append.mp hx).elim (hys x) (hxs x)
  · rw [List.length_append, Nat.add_comm]

/-- The stream and its memory are given back. -/
theorem close_meets {x z : Handle Object} {k : Prog Object Exn String}
    {Q : Except Exn String → Ledger Object → Prop} (h : Meets k Q l) :
    Meets (do free (some x); free (some z); k) Q
      ⟨l.ptrs, z ::ₘ x ::ₘ l.loose, l.released⟩ := by
  refine .bind (.free (by simp) (.bind (.free ?_ ?_)))
  · by_cases hzx : z = x <;> simp [hzx]
  · -- Both are gone, in whatever order they were acquired
    have hloose : ((z ::ₘ x ::ₘ l.loose).erase x).erase z = l.loose := by
      rw [Multiset.erase_comm]
      simp
    dsimp only
    rw [hloose]
    exact h

/-- The key is written with what is given back in any case. -/
theorem writeKey_meets {y : Handle Object} (hy : y ∈ l.handles) :
    Meets (self.writeKey pem (some y)) (fun r l' => r = self.written pem ∧ l' = l) l := by
  unfold writeKey
  refine .bind (.acquire (fun hstream x _ _ => ?_) fun hstream => ?_)
  · refine .bind (.throwIf (fun h => by cases h) fun _ => ?_)
    -- With the stream there is its buffer
    refine .bind (.acquire (fun _ z _ _ => ?_) fun h => by cases h)
    -- Both are live, and so is the key
    have hx : x ∈ Ledger.handles ⟨l.ptrs, z ::ₘ x ::ₘ l.loose, l.released⟩ :=
      Ledger.mem_acquire (l := ⟨l.ptrs, _, _⟩) (Ledger.mem_new x) z
    have hz : z ∈ Ledger.handles ⟨l.ptrs, z ::ₘ x ::ₘ l.loose, l.released⟩ := Ledger.mem_new z
    have hy' : y ∈ Ledger.handles ⟨l.ptrs, z ::ₘ x ::ₘ l.loose, l.released⟩ :=
      Ledger.mem_acquire (l := ⟨l.ptrs, _, _⟩) (Ledger.mem_acquire hy x) z
    refine .bind (.use hx (.bind (.use hy' (.bind (Meets.mono (Q := fun r l' =>
      ∃ failed, r = .ok failed ∧ (failed = true ↔ self.pemWritePUBKEY ≤ 0 ∨ self.fflush ≠ 0) ∧
        l' = ⟨l.ptrs, z ::ₘ x ::ₘ l.loose, l.released⟩) ?_ ?_)))))
    · -- The stream is flushed only if the key was written
      refine .or (.pure ?_)
      cases hwrite : decide (self.pemWritePUBKEY ≤ 0) with
      | true => exact ⟨true, rfl, by simp [of_decide_eq_true hwrite], rfl⟩
      | false =>
        exact .bind (.use hx (.pure ⟨_, rfl, by simp [of_decide_eq_false hwrite], rfl⟩))
    · -- Either way both are freed
      rintro - - ⟨failed, rfl, hfailed, rfl⟩
      unfold written
      rw [hstream]
      by_cases h : failed = true
      · dsimp only
        rw [if_pos h, if_neg (by simp), if_pos (hfailed.mp h)]
        exact close_meets (.throw ⟨rfl, rfl⟩)
      · dsimp only
        rw [if_neg h, if_neg (by simp), if_neg (fun hc => h (hfailed.mpr hc))]
        exact .bind (.use hz (close_meets (.pure ⟨rfl, rfl⟩)))
  · -- Without a stream nothing was acquired
    refine .bind (.throwIf (fun _ => ⟨?_, rfl⟩) fun h => by cases h)
    unfold written
    rw [hstream]
    rfl

/-- The key is made and written with what is given back in any case. -/
theorem makeKey_meets {p : Option (Handle Object)} (hp : p.isSome = self.toParam)
    (hmem : ∀ x, p = some x → x ∈ l.handles) :
    Meets (self.makeKey pem p) (fun r l' => r = self.made pem ∧ l' = l) l := by
  unfold makeKey made
  refine .bind (.throwIf (fun h => ⟨?_, rfl⟩) fun h => ?_)
  · simp [← hp, h]
  obtain ⟨x, rfl⟩ : ∃ x, p = some x := Option.isSome_iff_exists.mp (by simpa using h)
  have hx := hmem x rfl
  rw [← hp, Option.isSome_some]
  refine .acquire_unique fun c hc _ => .bind (.throwIf (fun h => ?_) fun h => ?_)
  · -- No context: its pointer is the only one in scope
    exact ⟨c, _, rfl, by simp [← hc, h]⟩
  obtain ⟨y, rfl⟩ : ∃ y, c = some y := Option.isSome_iff_exists.mp (by simpa using h)
  have hy : y ∈ Ledger.handles ⟨some y :: l.ptrs, l.loose, l.released⟩ := Ledger.mem_top y
  rw [← hc, Option.isSome_some]
  refine .bind (.use hy (.bind (.throwIf (fun h => ?_) fun h => ?_)))
  · exact ⟨some y, _, rfl, by simp [of_decide_eq_true h]⟩
  have hinit := of_decide_eq_false h
  refine .bind (.use hy (.bind (.use (Ledger.mem_push hx _) (.bind (.acquire
    (fun hok z _ _ => ?_) fun hok => ?_)))))
  · -- A key was made, and a pointer owns it while it is written
    have hdata : ¬self.fromdata ≤ 0 := Int.not_le.mpr (of_decide_eq_true hok)
    refine .bind (.throwIf (fun h' => absurd (of_decide_eq_true h') hdata) fun _ => ?_)
    refine .unique_some (l := ⟨some y :: l.ptrs, l.loose, l.released⟩)
      ((writeKey_meets (Ledger.mem_top z)).mono ?_)
    rintro r - ⟨rfl, rfl⟩
    exact ⟨some z, _, rfl, some y, _, rfl, by simp [hinit, hdata], rfl⟩
  · -- No key was made, and only the context is given back
    have hdata : self.fromdata ≤ 0 := Int.not_lt.mp (of_decide_eq_false hok)
    exact .bind (.throwIf (fun _ => ⟨some y, _, rfl, by simp [hdata], rfl⟩)
      fun h' => absurd hdata (of_decide_eq_false h'))

/-- A number that is pushed is one of those that are live. -/
theorem push_meets {Q : Except Exn Int → Ledger Object → Prop} {z x : Handle Object} {result : Int}
    (hz : z ∈ l.handles) (hx : x ∈ l.handles) (h : Q (.ok result) l) :
    Meets (push (some z) (some x) result) Q l :=
  .bind (.use hz (.bind (.use hx (.pure h))))

section Numbers

variable {x y : Handle Object} {b : Option (Handle Object)} {ps : List (Option (Handle Object))}
  {loose : Multiset (Handle Object)} {released : List (Handle Object)}

/-- The numbers that are given to the builder have no owner any more. -/
theorem pushNumbers_meets (hb : b.isSome = self.paramBld) (hxy : y ≠ x)
    (hbx : ∀ z ∈ b, z ≠ x ∧ z ≠ y) :
    Meets (self.pushNumbers (some x) (some y) b)
      (fun r l' => ∃ failed q₂ q₃ numbers, r = .ok failed ∧
        (failed = true ↔ !self.paramBld ∨ self.pushBN.1 = 0 ∨ self.pushBN.2 = 0) ∧
        l' = Ledger.lose ⟨b :: q₂ :: q₃ :: ps, loose, released⟩ numbers ∧
        (∀ u ∈ numbers, u = x ∨ u = y) ∧ numbers.length = self.given ∧
        (failed = false → x ∈ numbers ∧ y ∈ numbers))
      ⟨b :: some y :: some x :: ps, loose, released⟩ := by
  unfold pushNumbers given
  refine .or (.pure ?_)
  cases b with
  | none =>
    -- Without a builder neither number is released
    have hnone : self.paramBld = false := hb.symm
    exact ⟨true, some y, some x, [], rfl, by simp [hnone], by simp, by simp, by simp [hnone],
      by simp⟩
  | some z =>
    have hsome : self.paramBld = true := hb.symm
    obtain ⟨hzx, hzy⟩ := hbx z rfl
    -- A pointer that releases what it owns is empty, the others are as they were
    have hclear : clear (some x) (some z :: some y :: some x :: ps) =
        some z :: some y :: none :: ps := by
      simp [clear, hzx, hxy]
    have hclear' : clear (some y) (some z :: some y :: none :: ps) =
        some z :: none :: none :: ps := by
      simp [clear, hzy]
    -- The modulus is released before it is known whether the builder takes it
    refine .or (.bind (.release (by simp) ?_))
    dsimp only
    rw [hclear]
    refine .bind (push_meets (Ledger.mem_top z) (Ledger.mem_new x) (.pure ?_))
    cases hpush : decide (self.pushBN.1 = 0) with
    | true =>
      -- So the exponent still has its owner
      have hzero := of_decide_eq_true hpush
      exact ⟨true, some y, none, [x], rfl, by simp [hzero], rfl, by simp, by simp [hsome, hzero],
        by simp⟩
    | false =>
      have hzero := of_decide_eq_false hpush
      refine .bind (.release (by simp) ?_)
      dsimp only
      rw [hclear']
      refine .bind (push_meets (Ledger.mem_top z) (Ledger.mem_new y) (.pure ?_))
      exact ⟨_, none, none, [y, x], rfl, by simp [hsome, hzero],
        by simp [Ledger.lose, ← Multiset.cons_coe], by simp [or_comm], by simp [hsome, hzero],
        by simp⟩

/-- The parameters are made from the numbers, which stay. -/
theorem makeParams_meets (hx : x.kind = .bignum) (hy : y.kind = .bignum)
    (hb : b.isSome = self.paramBld) (hxy : y ≠ x) (hbx : ∀ z ∈ b, z ≠ x ∧ z ≠ y) :
    Meets (self.makeParams pem (some x) (some y) b)
      (fun r l' => ∃ q₂ q₃, r = self.built pem ∧
        Lost ⟨b :: q₂ :: q₃ :: ps, loose, released⟩ self.given l')
      ⟨b :: some y :: some x :: ps, loose, released⟩ := by
  unfold makeParams built
  refine .bind ((pushNumbers_meets hb hxy hbx).mono ?_)
  rintro - - ⟨failed, q₂, q₃, numbers, rfl, hfailed, rfl, hnumbers, hcount, hgiven⟩
  -- Whatever is released is one of the two numbers
  have hkinds : ∀ u ∈ numbers, u.kind = .bignum := by
    intro u hu
    obtain rfl | rfl := hnumbers u hu
    · exact hx
    · exact hy
  refine .bind (.throwIf (fun h => ?_) fun h => ?_)
  · exact ⟨q₂, q₃, by rw [if_pos (hfailed.mp h)], numbers, rfl, hkinds, hcount⟩
  have hbuilt := mt hfailed.mpr (by rw [h]; exact Bool.false_ne_true)
  -- Nothing failed, so there is a builder
  obtain ⟨z, rfl⟩ : ∃ z, b = some z := by
    apply Option.isSome_iff_exists.mp
    rw [hb]
    by_contra hno
    exact hbuilt (.inl (by simpa using hno))
  -- Nobody owns the numbers, but they are there
  obtain ⟨hx', hy'⟩ := hgiven h
  refine .bind (.use (Ledger.mem_top z) (.bind (.use (Ledger.mem_lose hx')
    (.bind (.use (Ledger.mem_lose hy') ?_)))))
  refine .acquire_unique fun params hparams _ => (makeKey_meets hparams ?_).mono ?_
  · rintro u rfl
    exact Ledger.mem_top u
  · rintro r - ⟨rfl, rfl⟩
    exact ⟨params, _, rfl, q₂, q₃, by rw [if_neg hbuilt], numbers, rfl, hkinds, hcount⟩

end Numbers

/-- **Everything is given back but the numbers.** Whatever calls fail in the conversion of a key: it
    uses and frees only what is live, and at its end all that it acquired was freed but the
    numbers that it released, for which nobody is left. -/
theorem toPEMPubKey_meets :
    Meets (self.toPEMPubKey pem) (fun r l' => r = self.result pem ∧ Lost l self.leaks l') l := by
  unfold toPEMPubKey result leaks
  -- The modulus, in a scope of its own
  refine .acquire_unique fun n hn hkind => .bind (.throwIf (fun h => ?_) fun h => ?_)
  · obtain rfl := Option.isNone_iff_eq_none.mp h
    rw [← hn]
    exact ⟨none, _, rfl, rfl, lost_none⟩
  obtain ⟨x, rfl⟩ : ∃ x, n = some x := Option.isSome_iff_exists.mp (by simpa using h)
  rw [← hn]
  -- The exponent
  refine .acquire_unique fun e he hnew => .bind (.throwIf (fun h => ?_) fun h => ?_)
  · obtain rfl := Option.isNone_iff_eq_none.mp h
    rw [← he]
    exact ⟨none, _, rfl, some x, _, rfl, rfl, lost_none⟩
  obtain ⟨y, rfl⟩ : ∃ y, e = some y := Option.isSome_iff_exists.mp (by simpa using h)
  rw [← he]
  -- The exponent was acquired while the modulus was live
  have hxy : y ≠ x := by
    rintro rfl
    exact (hnew y rfl).2 (Ledger.mem_top y)
  -- The builder, whose scope ends first
  refine .acquire_unique fun b hb hnew' => (makeParams_meets (hkind x rfl).1 (hnew y rfl).1 hb hxy
    fun z hz => ⟨?_, ?_⟩).mono ?_
  · rintro rfl
    exact (hnew' z hz).2
      (Ledger.mem_push (l := ⟨some z :: l.ptrs, l.loose, l.released⟩) (Ledger.mem_top z) _)
  · rintro rfl
    exact (hnew' z hz).2 (Ledger.mem_top z)
  · -- The scopes end one after the other, with nothing left to free for the numbers
    rintro r - ⟨q₂, q₃, rfl, numbers, rfl, hkinds, hcount⟩
    exact ⟨b, _, rfl, q₂, _, rfl, q₃, _, rfl, rfl, numbers, rfl, hkinds, by simpa using hcount⟩

/-- A key that is converted loses both numbers. -/
theorem leaks_of_not_failure (h : self.failure = none) : self.leaks = 2 := by
  unfold failure result at h
  -- Every failure is left out in turn: then both numbers were pushed
  split at h
  · cases h
  rename_i hresult
  split at hresult
  · cases hresult
  split at hresult
  · cases hresult
  rename_i hn he
  unfold built at hresult
  split at hresult
  · cases hresult
  rename_i hbuilt
  simp only [not_or] at hbuilt
  unfold leaks given
  simp_all

/-- No conversion loses more. -/
theorem leaks_le : self.leaks ≤ 2 := by
  unfold leaks given
  split
  · split
    · exact Nat.zero_le _
    · split <;> omega
  · exact Nat.zero_le _

end Conversion

/-! ## All keys of a JWKS -/

namespace OpenSSL

open Conversion

variable {ossl : OpenSSL} {l : Ledger Object} {n : Nat}

/-- What the first conversion throws that fails, from the `k`-th key of the `n`-th JWKS on. -/
def failure (ossl : OpenSSL) (n : Nat) : Nat → List RS256Key → Option Exn
  | _, [] => none
  | k, _ :: rest => (ossl.conversion n k).failure.or (failure ossl n (k + 1) rest)

/-- How many numbers are lost with keys: those of the keys up to the first one that fails. -/
def leaks (ossl : OpenSSL) (n : Nat) : Nat → List RS256Key → Nat
  | _, [] => 0
  | k, _ :: rest =>
    (ossl.conversion n k).leaks +
      match (ossl.conversion n k).failure with
      | none => leaks ossl n (k + 1) rest
      | some _ => 0

/-- `extractPubKeysPEM` without objects: if a conversion fails, what the first one throws, otherwise
    the keys with what they are in PEM. -/
def extracted (ossl : OpenSSL) (lib : NlohmannJson) (n : Nat) (jwks : String) : Except Exn KeyMap :=
  match parseRS256Keys lib jwks with
  | .error e => .error e
  | .ok ks =>
    match ossl.failure n 0 ks with
    | some e => .error e
    | none => extractPubKeysPEM lib (fun key => .ok (ossl.pem key)) jwks

/-- The loop of the conversion. -/
theorem insertPubKeys_meets (k : Nat) (ks : List RS256Key) (m : KeyMap) :
    Meets (ossl.insertPubKeys n k ks m) (fun r l' =>
      r = (match ossl.failure n k ks with
        | some e => .error e
        | none => insertPubKeysPEM (fun key => .ok (ossl.pem key)) ks m) ∧
      Lost l (ossl.leaks n k ks) l') l := by
  induction ks generalizing k m l with
  | nil => exact .pure ⟨rfl, lost_none⟩
  | cons key ks ih =>
    refine .bind (Conversion.toPEMPubKey_meets.mono ?_)
    rintro - l' ⟨rfl, hlost⟩
    -- The first conversion that throws ends the loop
    rw [Conversion.result_eq]
    cases hfailure : (ossl.conversion n k).failure with
    | some e => exact ⟨by simp [failure, hfailure], by simpa [leaks, hfailure] using hlost⟩
    | none =>
      -- The keys after it lose theirs besides
      refine (ih (k + 1) (m.insert key.id (ossl.pem key))).mono ?_
      rintro - l'' ⟨rfl, hlost'⟩
      exact ⟨by simp [failure, hfailure, insertPubKeysPEM],
        by simpa [leaks, hfailure] using hlost.trans hlost'⟩

/-- Keys that are all converted lose two numbers each. -/
theorem leaks_of_not_failure {k : Nat} {ks : List RS256Key} (h : ossl.failure n k ks = none) :
    ossl.leaks n k ks = 2 * ks.length := by
  induction ks generalizing k with
  | nil => rfl
  | cons key ks ih =>
    obtain ⟨hkey, hrest⟩ := Option.or_eq_none_iff.mp h
    -- Two for this key, and two for each one after it
    rw [leaks, hkey, Conversion.leaks_of_not_failure hkey, List.length_cons]
    dsimp only
    rw [ih hrest]
    omega

/-- No keys lose more. -/
theorem leaks_le (k : Nat) (ks : List RS256Key) : ossl.leaks n k ks ≤ 2 * ks.length := by
  induction ks generalizing k with
  | nil => exact Nat.le_refl _
  | cons key ks ih =>
    have hkey : (ossl.conversion n k).leaks ≤ 2 := Conversion.leaks_le
    have hrest := ih (k + 1)
    rw [List.length_cons, leaks]
    -- After a failure no other key is converted
    cases (ossl.conversion n k).failure with
    | some e =>
      dsimp only
      omega
    | none =>
      dsimp only
      omega

/-- Keys come from conversions that all went well. -/
theorem extracted_eq_ok {lib : NlohmannJson} {jwks : String} {keys : KeyMap}
    (h : ossl.extracted lib n jwks = .ok keys) :
    extractPubKeysPEM lib (fun key => .ok (ossl.pem key)) jwks = .ok keys ∧
    ∃ ks, parseRS256Keys lib jwks = .ok ks ∧ ossl.failure n 0 ks = none := by
  unfold extracted at h
  split at h
  · cases h
  rename_i ks hparse
  split at h
  · cases h
  rename_i hnone
  exact ⟨h, ks, hparse, hnone⟩

/-- How many numbers are lost with an answer of the JWKS provider. -/
def lost (ossl : OpenSSL) (lib : NlohmannJson) (n : Nat) (answer : Except Exn String) : Nat :=
  match answer with
  | .error _ => 0
  | .ok jwks =>
    match parseRS256Keys lib jwks with
    | .error _ => 0
    | .ok ks => ossl.leaks n 0 ks

/-- `extractPubKeysPEM` with its objects. -/
theorem extractPubKeys_meets (lib : NlohmannJson) (jwks : String) :
    Meets (ossl.extractPubKeys lib n jwks) (fun r l' => r = ossl.extracted lib n jwks ∧
      Lost l (ossl.lost lib n (.ok jwks)) l') l := by
  unfold extractPubKeys extracted lost extractPubKeysPEM
  dsimp only
  cases parseRS256Keys lib jwks with
  -- No JSON, and no key is converted
  | error e => exact .throw ⟨rfl, lost_none⟩
  | ok ks => exact insertPubKeys_meets 0 ks ∅

/-- What a program does to a heap that loses numbers only. -/
theorem run_of_meets {α : Type} {prog : Prog Object Exn α} {result : Except Exn α} {count : Nat}
    (hprog : Meets prog (fun r l' => r = result ∧ Lost ⟨[], 0, []⟩ count l') ⟨[], 0, []⟩)
    (h : Heap Object) :
    ∃ h' numbers, prog h = some (result, h') ∧ h'.owners = h.owners ∧
      h'.released = numbers ++ h.released ∧
      h'.live = (numbers : Multiset (Handle Object)) + h.live ∧
      (∀ x ∈ numbers, x.kind = .bignum) ∧ numbers.length = count := by
  obtain ⟨r, h', l', hrun, hsince, hr, numbers, hl', hkinds, hcount⟩ := hprog.run h
  subst hr hl'
  refine ⟨h', numbers, hrun, hsince.owners, ?_, ?_, hkinds, hcount⟩
  · -- What the ledger has lost is what the heap has more of
    simpa [Ledger.lose] using hsince.released
  · simpa [Ledger.lose, Ledger.handles, List.reduceOption] using hsince.live

/-- **Only numbers are lost.** Whatever calls of OpenSSL fail while the keys of a JWKS are
    converted, in whatever conversions: nothing is used or freed that is not live, no pointer is
    left in scope, and the result is that of `extractPubKeysPEM` without objects. What is live at
    the end besides what was before are exactly the handles that were released, and these are
    numbers: two for each key if all are converted, never more, and none if the JWKS cannot be
    parsed. -/
theorem extractPubKeys_run (lib : NlohmannJson) (jwks : String) (h : Heap Object) :
    ∃ h' numbers, ossl.extractPubKeys lib n jwks h = some (ossl.extracted lib n jwks, h') ∧
      h'.owners = h.owners ∧ h'.released = numbers ++ h.released ∧
      h'.live = (numbers : Multiset (Handle Object)) + h.live ∧
      (∀ x ∈ numbers, x.kind = .bignum) ∧
      (∀ e, parseRS256Keys lib jwks = .error e → numbers = []) ∧
      ∀ ks, parseRS256Keys lib jwks = .ok ks → numbers.length ≤ 2 * ks.length ∧
        ∀ keys, ossl.extracted lib n jwks = .ok keys → numbers.length = 2 * ks.length := by
  obtain ⟨h', numbers, hrun, howners, hreleased, hlive, hkinds, hcount⟩ :=
    run_of_meets (extractPubKeys_meets lib jwks) h
  refine ⟨h', numbers, hrun, howners, hreleased, hlive, hkinds, fun e hparse => ?_,
    fun ks hparse => ⟨?_, fun keys hkeys => ?_⟩⟩
  · simp only [lost, hparse] at hcount
    exact List.eq_nil_of_length_eq_zero hcount
  · simp only [lost, hparse] at hcount
    exact hcount ▸ leaks_le 0 ks
  · -- All conversions went well, or there were no keys to return
    obtain ⟨-, ks', hparse', hnone⟩ := extracted_eq_ok hkeys
    obtain rfl : ks = ks' := Except.ok.inj (hparse.symm.trans hparse')
    simp only [lost, hparse] at hcount
    exact hcount ▸ leaks_of_not_failure hnone

end OpenSSL

/-! ## A service that runs -/

/-- How the `n`-th request of a JWKS ends for a service that knows of no objects: if a conversion
    fails, with what it throws. The caller treats both alike. -/
def OpenSSL.answered (ossl : OpenSSL) (lib : NlohmannJson) (n : Nat)
    (response : Except Exn HttpResult) : Except Exn HttpResult :=
  match requestJWKS response with
  | .error e => .error e
  | .ok jwks =>
    match ossl.extracted lib n jwks with
    | .error e => .error e
    | .ok _ => response

namespace SecuredService

open Interleaving OpenSSL Conversion

variable {ω : Type} {self : SecuredService ω} {config : OpenID.Configuration} {ossl : OpenSSL}

/-- A service whose keys are converted by this OpenSSL. -/
def withOpenSSL (self : SecuredService ω) (ossl : OpenSSL) : SecuredService ω where
  __ := self
  toPEMPubKey key := .ok (ossl.pem key)
  jwks uri n := ossl.answered self.json n (self.jwks uri n)

/-- What its JWKS provider gives with the `n`-th call, before any key is converted. -/
def jwksAnswer (self : SecuredService ω) (config : OpenID.Configuration) (n : Nat) :
    Except Exn String :=
  requestJWKS (self.jwks config.jwksUri n)

/-- The `try` block of `updateKeyCache` with its objects comes to what the service makes of it. -/
theorem fetchKeys_meets {l : Ledger Object} (n : Nat) :
    Meets (ossl.fetchKeys self.json n (self.jwksAnswer config n)) (fun r l' =>
      r = ((self.withOpenSSL ossl).keyProvider config).fetchKeys n ∧
      Lost l (ossl.lost self.json n (self.jwksAnswer config n)) l') l := by
  have hprovider : ((self.withOpenSSL ossl).keyProvider config).jwksProvider n =
      requestJWKS (ossl.answered self.json n (self.jwks config.jwksUri n)) := rfl
  unfold OpenSSL.fetchKeys RestJwksRSAKeyProvider.fetchKeys jwksAnswer
  rw [hprovider]
  unfold answered
  cases hanswer : requestJWKS (self.jwks config.jwksUri n) with
  | error e => exact .throw ⟨rfl, lost_none⟩
  | ok jwks =>
    refine .bind ((extractPubKeys_meets self.json jwks).mono ?_)
    rintro - l' ⟨rfl, hlost⟩
    cases hextracted : ossl.extracted self.json n jwks with
    | error e =>
      -- A conversion failed, or the answer is no JSON
      simp only [hextracted]
      exact ⟨rfl, hlost⟩
    | ok keys =>
      have hkeys : extractPubKeysPEM ((self.withOpenSSL ossl).keyProvider config).json
          ((self.withOpenSSL ossl).keyProvider config).toPEMPubKey jwks = .ok keys :=
        (extracted_eq_ok hextracted).1
      -- An answer without keys counts as a failure only after the conversions
      simp only [hextracted, hanswer, hkeys]
      refine .bind (.throwIf (fun h => ?_) fun h => .pure ?_)
      · exact ⟨by rw [if_pos h], hlost⟩
      · exact ⟨by rw [if_neg (by simp [h])], hlost⟩

/-- What is live after some calls of the JWKS provider: the numbers that were released in them. -/
theorem requests_eq (calls : Nat) :
    ∃ h : Heap Object, ossl.requests self.json (self.jwksAnswer config) calls =
        some ((List.range calls).map ((self.withOpenSSL ossl).keyProvider config).fetchKeys, h) ∧
      h.owners = [] ∧ h.live = (h.released : Multiset (Handle Object)) ∧
      (∀ x ∈ h.released, x.kind = .bignum) ∧
      h.released.length = ((List.range calls).map fun n =>
        ossl.lost self.json n (self.jwksAnswer config n)).sum := by
  induction calls with
  | zero => exact ⟨.empty, rfl, rfl, rfl, fun _ hx => absurd hx List.not_mem_nil, rfl⟩
  | succ calls ih =>
    obtain ⟨h, hbefore, howners, hlive, hkinds, hcount⟩ := ih
    -- The last call finds the heap as those before it have left it
    obtain ⟨h', numbers, hrun, howners', hreleased', hlive', hkinds', hcount'⟩ :=
      run_of_meets (@fetchKeys_meets ω self config ossl _ calls) h
    refine ⟨h', ?_, howners'.trans howners, ?_, fun x hx => ?_, ?_⟩
    · simp only [requests, hbefore, hrun, Option.bind_eq_bind, Option.bind_some, pure,
        List.range_succ, List.map_append, List.map_cons, List.map_nil]
    · rw [hlive', hreleased', hlive, Multiset.coe_add]
    · rw [hreleased'] at hx
      exact (List.mem_append.mp hx).elim (hkinds' x) (hkinds x)
    · rw [hreleased', List.length_append, hcount', hcount, List.range_succ, List.map_append,
        List.sum_append]
      simp [Nat.add_comm]

/-- A request that gives keys loses two numbers for each key of its answer. -/
theorem lost_of_fetched {n : Nat} {keys : KeyMap}
    (h : ((self.withOpenSSL ossl).keyProvider config).fetchKeys n = .ok keys) :
    ∃ jwks ks, self.jwksAnswer config n = .ok jwks ∧ parseRS256Keys self.json jwks = .ok ks ∧
      ossl.lost self.json n (self.jwksAnswer config n) = 2 * ks.length := by
  have hprovider : ((self.withOpenSSL ossl).keyProvider config).jwksProvider n =
      requestJWKS (ossl.answered self.json n (self.jwks config.jwksUri n)) := rfl
  unfold RestJwksRSAKeyProvider.fetchKeys at h
  rw [hprovider] at h
  unfold answered at h
  unfold jwksAnswer
  -- Keys are fetched only where there was an answer and all its keys were converted
  cases hanswer : requestJWKS (self.jwks config.jwksUri n) with
  | error e =>
    rw [hanswer] at h
    cases h
  | ok jwks =>
    rw [hanswer] at h
    dsimp only at h
    cases hextracted : ossl.extracted self.json n jwks with
    | error e =>
      rw [hextracted] at h
      cases h
    | ok keys' =>
      obtain ⟨-, ks, hparse, hnone⟩ := extracted_eq_ok hextracted
      exact ⟨jwks, ks, rfl, hparse, by simp only [lost, hparse, leaks_of_not_failure hnone]⟩

/-- **Every request of the JWKS loses numbers.** In every run of a service with any requests,
    whatever calls of OpenSSL fail in whatever conversions: the JWKS was requested at the start and
    in the sections that did not find their key, and what the conversions come to is what the
    service makes of them. After them no pointer is left in scope, and what is live are exactly the
    handles that were released, which are numbers: those that were lost with each answer, two for
    each of its keys if it was usable. -/
theorem numbers_lost {ι : Type} [DecidableEq ι] {tokens : ι → String} {tr : List (Event ι)}
    {c : Config ι AuthLoc (State ω) Verdict} {cache : RestJwksRSAKeyProvider.State} {w : ω}
    (hstart : (self.withOpenSSL ossl).start = .ok (config, cache))
    (h : ((self.withOpenSSL ossl).authentication config).run tokens (.initial (cache, w)) tr =
      some c) :
    let provider := (self.withOpenSSL ossl).keyProvider config
    let calls := c.shared.1.providerCalls
    calls = 1 + ((self.withOpenSSL ossl).fetchesIn config tokens (cache, w) tr).length ∧
    (∃ heap : Heap Object, ossl.requests self.json (self.jwksAnswer config) calls =
        some ((List.range calls).map provider.fetchKeys, heap) ∧
      heap.owners = [] ∧ heap.live = (heap.released : Multiset (Handle Object)) ∧
      (∀ x ∈ heap.released, x.kind = .bignum) ∧
      heap.released.length = ((List.range calls).map fun n =>
        ossl.lost self.json n (self.jwksAnswer config n)).sum) ∧
    ∀ n keys, provider.fetchKeys n = .ok keys →
      ∃ jwks ks, self.jwksAnswer config n = .ok jwks ∧ parseRS256Keys self.json jwks = .ok ks ∧
        ossl.lost self.json n (self.jwksAnswer config n) = 2 * ks.length := by
  have hcalls := (run_fetches h).1
  rw [(start_filled hstart).2] at hcalls
  exact ⟨hcalls, requests_eq _, fun n keys hkeys => lost_of_fetched hkeys⟩

/-- A conversion in which nothing fails. -/
def testConversion : Conversion where
  bn := (true, true)
  paramBld := true
  pushBN := (1, 1)
  toParam := true
  ctx := true
  fromdataInit := 1
  fromdata := 1
  openMemstream := true
  pemWritePUBKEY := 1
  fflush := 0

/-- The OpenSSL of the tests. -/
def testOpenSSL : OpenSSL where
  pem _ := RestJwksRSAKeyProvider.testPEM
  conversion _ _ := testConversion

/-- The service of the tests, whose keys this OpenSSL converts, has lost four numbers after a request
    with an unknown key id. -/
theorem numbers_lost_test :
    ∃ config heap, testService.start = .ok (config, RestJwksRSAKeyProvider.testState) ∧
      (∃ results, testOpenSSL.requests testService.json (testService.jwksAnswer config) 2 =
        some (results, heap)) ∧
      heap.live = (heap.released : Multiset (Handle Object)) ∧
      (∀ x ∈ heap.released, x.kind = .bignum) ∧ heap.released.length = 4 := by
  obtain ⟨config, hstart⟩ := test_start
  obtain ⟨-, ⟨heap, hheap, -, hlive, hkinds, hcount⟩, hlost⟩ :=
    @numbers_lost _ testService config testOpenSSL _ _ _ _ _ _ () hstart (@test_unknown config)
  -- Both answers have the one key
  have hone : ∀ n, testOpenSSL.lost testService.json n (testService.jwksAnswer config n) = 2 := by
    intro n
    obtain ⟨jwks, ks, hanswer, hparse, hcount⟩ :=
      hlost n RestJwksRSAKeyProvider.testState.data rfl
    cases hanswer
    cases hparse
    exact hcount
  refine ⟨config, heap, hstart, ⟨_, hheap⟩, hlive, hkinds, ?_⟩
  rw [hcount]
  simp only [hone]
  rfl

end SecuredService

end SapperBricks
