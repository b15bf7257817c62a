import SapperBricks.Native.EntityHandlers
import SapperBricks.Spec.NotifyReplication

/-!
# Entities as they are read

What the handlers make of the JSON text of an entity. `get_to<int>` converts any number and
any boolean, so a text whose `int_property` is no `int` is not rejected: the entity that
reaches the core has another value.

## Key results

- `getInt_ok_iff`, `getInt_isInt32`: what `get_to<int>` converts, and what it keeps
- `entityFromJson_eq_ok`: what is read from a document
- `setEntity_exact_iff`: the texts whose entity is set as it is, or rejected
-/

namespace SapperBricks

/-! ## Numbers -/

namespace Json

/-- The value of a number. -/
def number? : Json → Option Rat
  | .numberInteger i => some i
  | .numberFloat q => some q
  | _ => none

/-- The values that `get_to` takes for an arithmetic type. -/
def isArithmetic : Json → Bool
  | .numberInteger _ => true
  | .numberFloat _ => true
  | .boolean _ => true
  | _ => false

/-- An integer that an `int` can hold. -/
def IsInt32 (v : Json) : Prop :=
  ∃ i : Int32, v.number? = some (i.toInt : Rat)

/-- `v == w` for values that are no arrays or objects: numbers are compared by their
    value. -/
def Equals (v w : Json) : Prop :=
  v = w ∨ ∃ q, v.number? = some q ∧ w.number? = some q

end Json

namespace NlohmannJson

variable (lib : NlohmannJson) {v : Json}

/-- `get_to` converts exactly the arithmetic values. -/
theorem getInt_ok_iff : (∃ i, lib.getInt v = .ok i) ↔ v.isArithmetic = true := by
  cases v with
  | numberFloat q =>
    simp only [getInt, Json.isArithmetic]
    split <;> simp
  | _ => simp [getInt, Json.isArithmetic]

/-- The integral part of an integer. -/
theorem truncate_intCast (n : Int) : truncate (n : Rat) = n := by
  unfold truncate
  split <;> simp

/-- An integer in the range of `int` is converted to itself. -/
theorem getInt_isInt32 {i : Int32} (h : v.number? = some (i.toInt : Rat)) :
    lib.getInt v = .ok i := by
  cases v with
  | numberInteger n =>
    simp only [Json.number?, Option.some.injEq, Rat.intCast_inj] at h
    subst h
    simp [getInt]
  | numberFloat q =>
    simp only [Json.number?, Option.some.injEq] at h
    subst h
    -- A float with the value of an `int` is not cut off, and in range
    have hrange : -2 ^ 31 ≤ i.toInt ∧ i.toInt < 2 ^ 31 := ⟨i.le_toInt, i.toInt_lt⟩
    simp only [getInt]
    rw [truncate_intCast, if_pos hrange, Int32.ofInt_toInt]
  | _ => cases h

end NlohmannJson

/-! ## Documents -/

/-- The `int_property` of a document is an integer that an `int` can hold. -/
def Json.HasInt32 (body : Json) : Prop :=
  ∃ v, body.find? "int_property" = some v ∧ v.IsInt32

/-- The members of an entity's document have the values they have in another document. -/
def Json.HasMembersOf (body : Json) (entity : Entity) : Prop :=
  ∀ key v, (entityToJson entity).find? key = some v → ∃ w, body.find? key = some w ∧ w.Equals v

/-- What is read from a document. -/
theorem entityFromJson_eq_ok {lib : NlohmannJson} {body : Json} {entity : Entity} :
    entityFromJson lib body = .ok entity ↔
      body.find? "id" = some (.string entity.id) ∧
      body.find? "string_property" = some (.string entity.stringProperty) ∧
      ∃ v, body.find? "int_property" = some v ∧ lib.getInt v = .ok entity.intProperty := by
  -- `get_to` takes a string for a string only
  have hstring : ∀ {v : Json} {text : String}, lib.getString v = .ok text ↔ v = .string text := by
    intro v text
    cases v <;> simp [NlohmannJson.getString]
  simp only [entityFromJson, NlohmannJson.atKey, bind, Except.bind, pure, Except.pure]
  cases hid : body.find? "id" with
  | none => simp
  | some id =>
    cases hstr : body.find? "string_property" with
    | none => cases hread : lib.getString id <;> simp [hread]
    | some str =>
      cases hint : body.find? "int_property" with
      | none =>
        cases hread : lib.getString id <;> cases hread' : lib.getString str <;>
          simp [hread, hread']
      | some int =>
        simp only [Option.some.injEq, exists_eq_left', ← hstring]
        -- All three are there, so it is up to the conversions
        obtain ⟨id', str', int'⟩ := entity
        cases hread : lib.getString id <;> cases hread' : lib.getString str <;>
          cases hread'' : lib.getInt int <;> simp

/-- The members of an entity's document. -/
theorem entityToJson_find? (entity : Entity) :
    (entityToJson entity).find? "id" = some (.string entity.id) ∧
    (entityToJson entity).find? "string_property" = some (.string entity.stringProperty) ∧
    (entityToJson entity).find? "int_property" =
      some (.numberInteger entity.intProperty.toInt) ∧
    ∀ key, key ≠ "id" → key ≠ "string_property" → key ≠ "int_property" →
      (entityToJson entity).find? key = none := by
  rw [entityToJson_eq]
  refine ⟨rfl, rfl, rfl, ?_⟩
  intro key hid hstring hint
  simp [Json.find?, Ne.symm hid, Ne.symm hstring, Ne.symm hint]

/-- The values of an entity are those of a document. -/
theorem hasMembersOf_iff {body : Json} {entity : Entity} :
    body.HasMembersOf entity ↔
      body.find? "id" = some (.string entity.id) ∧
      body.find? "string_property" = some (.string entity.stringProperty) ∧
      ∃ v, body.find? "int_property" = some v ∧
        v.number? = some (entity.intProperty.toInt : Rat) := by
  obtain ⟨hid, hstring, hint, hother⟩ := entityToJson_find? entity
  -- A string is equal to no value but itself, a number to any of its value
  have hequals : ∀ {v : Json} {text : String}, v.Equals (.string text) ↔ v = .string text := by
    intro v text
    simp [Json.Equals, Json.number?]
  have hnumber : ∀ {v : Json} {n : Int}, v.Equals (.numberInteger n) ↔ v.number? = some (n : Rat) := by
    intro v n
    constructor
    · rintro (rfl | ⟨q, hv, hq⟩)
      · rfl
      · rw [hv, ← hq]
        rfl
    · intro hv
      exact .inr ⟨n, hv, rfl⟩
  constructor
  · intro h
    obtain ⟨v₁, hv₁, heq₁⟩ := h _ _ hid
    obtain ⟨v₂, hv₂, heq₂⟩ := h _ _ hstring
    obtain ⟨v₃, hv₃, heq₃⟩ := h _ _ hint
    rw [hequals] at heq₁ heq₂
    rw [hnumber] at heq₃
    exact ⟨heq₁ ▸ hv₁, heq₂ ▸ hv₂, v₃, hv₃, heq₃⟩
  · rintro ⟨h₁, h₂, v, h₃, hv⟩ key w hw
    -- The document of an entity has these three members and no other
    by_cases hkey₁ : key = "id"
    · subst hkey₁
      rw [hid, Option.some.injEq] at hw
      exact ⟨w, by rw [h₁, hw], .inl rfl⟩
    by_cases hkey₂ : key = "string_property"
    · subst hkey₂
      rw [hstring, Option.some.injEq] at hw
      exact ⟨w, by rw [h₂, hw], .inl rfl⟩
    by_cases hkey₃ : key = "int_property"
    · subst hkey₃
      rw [hint, Option.some.injEq] at hw
      exact ⟨v, h₃, hw ▸ hnumber.mpr hv⟩
    rw [hother key hkey₁ hkey₂ hkey₃] at hw
    cases hw

/-- The value of an `int_property` that is kept is an integer. -/
theorem Json.HasMembersOf.hasInt32 {body : Json} {entity : Entity}
    (h : body.HasMembersOf entity) : body.HasInt32 := by
  obtain ⟨-, -, v, hv, hnumber⟩ := hasMembersOf_iff.mp h
  exact ⟨v, hv, entity.intProperty, hnumber⟩

/-! ## Handlers -/

/-- What a text is processed as, once it is read. -/
theorem setEntityFromJson_eq {σ ν : Type} (json : NlohmannJson) (api : Core σ ν) (text : String)
    (s : σ × ν) :
    setEntityFromJson json api text s =
      match json.parse text >>= entityFromJson json with
      | .error what => (.error (.invalidArgument what), s)
      | .ok e => ((api.setEntity e s).1.map fun _ => .ok, (api.setEntity e s).2) := by
  unfold setEntityFromJson
  cases json.parse text >>= entityFromJson json with
  | error what => rfl
  | ok e =>
    dsimp only
    cases api.setEntity e s with
    | mk r s' => cases r <;> rfl

/-- A handler that sets the entity of a text: the HTTP handler, for a request on a path, the
    one of the command line, or the one of messages. -/
inductive SetEntityHandler (σ ν : Type) where
  | http (handler : HttpHandler σ ν) (path : String)
  | cli (handler : CliHandler σ ν)
  | pubSub (handler : PubSubReceiver σ ν)

namespace SetEntityHandler

variable {σ ν : Type}

/-- The library of the handler. -/
def json : SetEntityHandler σ ν → NlohmannJson
  | http handler _ => handler.json
  | cli handler => handler.json
  | pubSub handler => handler.json

/-- The core that it calls. -/
def api : SetEntityHandler σ ν → Core σ ν
  | http handler _ => handler.api
  | cli handler => handler.api
  | pubSub handler => handler.api

/-- What turns its exceptions into statuses. -/
def requestHandler : SetEntityHandler σ ν → RequestHandler
  | http handler _ => handler.requestHandler
  | cli handler => handler.requestHandler
  | pubSub handler => handler.requestHandler

/-- Its `setEntity`, as far as it is processed as a request. -/
def process : SetEntityHandler σ ν → String → σ × ν → Except Exn Status × (σ × ν)
  | http handler path, text, s => handler.setEntityRequest ⟨path, text⟩ s
  | cli handler, text, s => handler.setEntityRequest text s
  | pubSub handler, text, s => handler.setEntityRequest text s

/-- The ids that it accepts: the HTTP handler only the one it takes from the path. -/
def Admits : SetEntityHandler σ ν → String → Prop
  | http _ path, id => HttpHandler.extractId path = .ok id
  | cli _, _ => True
  | pubSub _, _ => True

/-- The entity of a text, as the library reads it. -/
def decode (self : SetEntityHandler σ ν) (text : String) : Except String Entity :=
  self.json.parse text >>= entityFromJson self.json

/-- An entity that is handed to `Core::SetEntity`. -/
def Passes (self : SetEntityHandler σ ν) (text : String) (entity : Entity) : Prop :=
  self.decode text = .ok entity ∧ self.Admits entity.id

/-- A text is rejected with `invalid_argument`, and nothing changes. -/
def Rejects (self : SetEntityHandler σ ν) (text : String) : Prop :=
  ∀ s, (self.process text s).2 = s ∧
    (self.requestHandler.process (self.process text s).1).code = .invalidArgument

variable {self : SetEntityHandler σ ν} {text : String} {entity : Entity}

/-- The state and the status of an entity that is passed on are those of `SetEntity`. -/
theorem process_passes (h : self.Passes text entity) (s : σ × ν) :
    self.process text s = ((self.api.setEntity entity s).1.map fun _ => .ok,
      (self.api.setEntity entity s).2) := by
  obtain ⟨hdecode, hid⟩ := h
  -- The other two handlers set what the library reads
  have hjson : ∀ json : NlohmannJson, ∀ api : Core σ ν,
      json.parse text >>= entityFromJson json = .ok entity →
      setEntityFromJson json api text s =
        ((api.setEntity entity s).1.map fun _ => .ok, (api.setEntity entity s).2) := by
    intro json api hread
    rw [setEntityFromJson_eq, hread]
  cases self with
  | http handler path =>
    have hread : handler.json.parse text >>= handler.fromJson = .ok entity := hdecode
    -- The id of the path is that of the entity, so the core is called
    have hext : HttpHandler.extractId path = .ok entity.id := hid
    simp only [process, HttpHandler.setEntityRequest, hread, hext, ne_eq, not_true, if_false, api]
    cases handler.api.setEntity entity s with
    | mk r t => cases r <;> rfl
  | cli handler => exact hjson _ _ hdecode
  | pubSub handler => exact hjson _ _ hdecode

/-- A text that cannot be read is an invalid argument. -/
theorem process_unread {what : String} (hdecode : self.decode text = .error what) (s : σ × ν) :
    self.process text s = (.error (.invalidArgument what), s) := by
  have hjson : ∀ json : NlohmannJson, ∀ api : Core σ ν,
      json.parse text >>= entityFromJson json = .error what →
      setEntityFromJson json api text s = (.error (.invalidArgument what), s) := by
    intro json api hread
    rw [setEntityFromJson_eq, hread]
  cases self with
  | http handler path =>
    have hread : handler.json.parse text >>= handler.fromJson = .error what := hdecode
    simp only [process, HttpHandler.setEntityRequest, hread]
  | cli handler => exact hjson _ _ hdecode
  | pubSub handler => exact hjson _ _ hdecode

/-- So is an entity whose id is not accepted. -/
theorem process_not_admitted (hdecode : self.decode text = .ok entity)
    (hid : ¬self.Admits entity.id) (s : σ × ν) :
    ∃ what, self.process text s = (.error (.invalidArgument what), s) := by
  cases self with
  | http handler path =>
    have hread : handler.json.parse text >>= handler.fromJson = .ok entity := hdecode
    cases hext : HttpHandler.extractId path with
    | error e =>
      -- The path has no slash to take an id from
      have he : e = .invalidArgument "invalid URL" := by
        unfold HttpHandler.extractId at hext
        split at hext <;> cases hext
        rfl
      refine ⟨"invalid URL", ?_⟩
      simp only [process, HttpHandler.setEntityRequest, hread, hext, he]
    | ok id =>
      -- The HTTP handler is the only one that compares
      have hne : entity.id ≠ id := by
        intro heq
        exact hid (hext.trans (heq ▸ rfl))
      refine ⟨"inconsistent id", ?_⟩
      simp only [process, HttpHandler.setEntityRequest, hread, hext, if_pos hne]
  | cli handler => exact absurd trivial hid
  | pubSub handler => exact absurd trivial hid

/-- A text with no entity to pass on is rejected. -/
theorem rejects_of_not_passes (h : ∀ entity, ¬self.Passes text entity) : self.Rejects text := by
  intro s
  -- Not read or not accepted: there is no other reason to pass nothing on
  have hinvalid : ∃ what, self.process text s = (.error (.invalidArgument what), s) := by
    cases hdecode : self.decode text with
    | error what => exact ⟨what, process_unread hdecode s⟩
    | ok entity => exact process_not_admitted hdecode (fun hid => h entity ⟨hdecode, hid⟩) s
  obtain ⟨what, hprocess⟩ := hinvalid
  rw [hprocess]
  exact ⟨rfl, self.requestHandler.handle_invalidArgument what⟩

/-- A text is set as it is: an entity that is handed to the core has the values of the
    document, and a document whose `int_property` is no `int` is rejected. -/
structure SetsExactly (handler : SetEntityHandler σ ν) (text : String) : Prop where
  exact : ∀ entity, handler.Passes text entity →
    ∃ body, handler.json.parse text = .ok body ∧ body.HasMembersOf entity
  rejects : ∀ body, handler.json.parse text = .ok body → ¬body.HasInt32 → handler.Rejects text

/-- A document that has the strings of an entity with an id that the handler accepts. -/
def Names (self : SetEntityHandler σ ν) (body : Json) : Prop :=
  ∃ id str, body.find? "id" = some (.string id) ∧
    body.find? "string_property" = some (.string str) ∧ self.Admits id

/-- What is passed on for a document. -/
theorem passes_iff {body : Json} (hparse : self.json.parse text = .ok body) :
    self.Passes text entity ↔ entityFromJson self.json body = .ok entity ∧
      self.Admits entity.id := by
  unfold Passes decode
  rw [hparse]
  rfl

/-- An arithmetic `int_property` is passed on, whatever its value. -/
theorem Names.passes {body v : Json} (h : self.Names body)
    (hparse : self.json.parse text = .ok body) (hv : body.find? "int_property" = some v)
    (harith : v.isArithmetic = true) : ∃ entity, self.Passes text entity := by
  obtain ⟨id, str, hid, hstr, hadmits⟩ := h
  obtain ⟨i, hi⟩ := self.json.getInt_ok_iff.mpr harith
  exact ⟨⟨id, str, i⟩, (passes_iff hparse).mpr
    ⟨entityFromJson_eq_ok.mpr ⟨hid, hstr, v, hv, hi⟩, hadmits⟩⟩

/-- **Which texts are set as they are.** Whatever handler a text is given to: an entity that
    is handed to the core is that of a `SetEntity`, anything else is rejected; and the text
    is set as it is exactly if it is rejected for its strings, or its `int_property` is an
    integer of 32 bits or no number and no boolean at all. -/
theorem setEntity_exact_iff (self : SetEntityHandler σ ν) (text : String) :
    (∀ entity, self.Passes text entity → ∀ s, self.process text s =
      ((self.api.setEntity entity s).1.map fun _ => .ok, (self.api.setEntity entity s).2)) ∧
    ((∀ entity, ¬self.Passes text entity) → self.Rejects text) ∧
    (self.SetsExactly text ↔
      ∀ body v, self.json.parse text = .ok body → self.Names body →
        body.find? "int_property" = some v → v.isArithmetic = true → v.IsInt32) := by
  refine ⟨fun entity => process_passes, rejects_of_not_passes, ?_⟩
  constructor
  · intro h body v hparse hnames hv harith
    -- An arithmetic value is passed on, so it must have been kept
    obtain ⟨entity, hpasses⟩ := hnames.passes hparse hv harith
    obtain ⟨body', hparse', hmembers⟩ := h.exact entity hpasses
    rw [hparse, Except.ok.injEq] at hparse'
    subst hparse'
    obtain ⟨w, hw, hint⟩ := hmembers.hasInt32
    rw [hv, Option.some.injEq] at hw
    exact hw ▸ hint
  · intro h
    -- What is passed on was read from an integer, which is kept
    have hpassed : ∀ entity body, self.json.parse text = .ok body → self.Passes text entity →
        body.HasMembersOf entity := by
      intro entity body hparse hpasses
      obtain ⟨hread, hadmits⟩ := (passes_iff hparse).mp hpasses
      obtain ⟨hid, hstr, v, hv, hint⟩ := entityFromJson_eq_ok.mp hread
      have harith := self.json.getInt_ok_iff.mp ⟨_, hint⟩
      obtain ⟨i, hi⟩ := h body v hparse ⟨_, _, hid, hstr, hadmits⟩ hv harith
      rw [self.json.getInt_isInt32 hi, Except.ok.injEq] at hint
      exact hasMembersOf_iff.mpr ⟨hid, hstr, v, hv, hint ▸ hi⟩
    constructor
    · intro entity hpasses
      cases hparse : self.json.parse text with
      | error what =>
        have hdecode := hpasses.1
        unfold decode at hdecode
        rw [hparse] at hdecode
        cases hdecode
      | ok body => exact ⟨body, rfl, hpassed entity body hparse hpasses⟩
    · intro body hparse hnot
      apply rejects_of_not_passes
      intro entity hpasses
      exact hnot (hpassed entity body hparse hpasses).hasInt32

/-- A text with an `int_property` beyond 32 bits. -/
def wideText : String :=
  "\x7b\"id\":\"test\",\"int_property\":4294967338,\"string_property\":\"str\"\x7d"

/-- Its document. -/
def wideBody : Json :=
  .object [("id", .string "test"), ("int_property", .numberInteger 4294967338),
    ("string_property", .string "str")]

/-- A library that reads that text. -/
def wideJson : NlohmannJson :=
  { Services.documentJson exampleEntity exampleText with
    parse := fun t => if t = wideText then .ok wideBody
      else .error "[json.exception.parse_error.101] parse error" }

/-- The handler of the command line over an empty repo in memory. -/
def wideHandler : SetEntityHandler EntityMap Unit :=
  .cli ⟨wideJson, Services.testRequestHandler, ⟨some inMemoryRepo, none⟩⟩

/-- The text is set, and its `int_property` becomes 42. -/
theorem int_property_wraps :
    ¬wideBody.HasInt32 ∧ wideHandler.json.parse wideText = .ok wideBody ∧
    (wideHandler.process wideText (∅, ())).1 = .ok .ok ∧
    (wideHandler.process wideText (∅, ())).2.1["test"]? = some ⟨"test", "str", 42⟩ := by
  refine ⟨?_, rfl, by decide, by decide⟩
  rintro ⟨v, hv, i, hi⟩
  -- No `int` has this value
  have hwide : v = .numberInteger 4294967338 := (Option.some.inj hv).symm
  subst hwide
  simp only [Json.number?, Option.some.injEq, Rat.intCast_inj] at hi
  have hlt := i.toInt_lt
  omega

end SetEntityHandler

end SapperBricks
