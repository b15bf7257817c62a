import SapperBricks.Native.Ports

/-!
# JSON documents and the JSON form of entities

`nlohmann::json` values with the member functions the bricks use, and `to_json` and
`from_json` of an entity, of which every brick that needs them has its own copy.

Reading and printing JSON text is left to the library: `NlohmannJson` is what the bricks
see of it.
-/

namespace SapperBricks

/-- `nlohmann::json`. The members of an object are in the order in which they are
    iterated; a number is an integer or a finite double. -/
inductive Json where
  | null
  | boolean (b : Bool)
  | numberInteger (i : Int)
  | numberFloat (q : Rat)
  | string (s : String)
  | array (elements : List Json)
  | object (members : List (String × Json))
deriving Repr

namespace Json

/-- The value of a member; there is none in anything but an object. -/
def find? (key : String) : Json → Option Json
  | .object members => (members.find? fun m => m.1 = key).map Prod.snd
  | _ => none

/-- `contains(key)`. -/
def contains (j : Json) (key : String) : Bool :=
  (j.find? key).isSome

/-- The text of a string. -/
def string? : Json → Option String
  | .string s => some s
  | _ => none

/-- `j.contains(key) && j[key].is_string()`, with the string. -/
def stringAt? (j : Json) (key : String) : Option String :=
  (j.find? key).bind string?

/-- The values that a range-based `for` visits: elements, member values, or the scalar
    itself. -/
def iterate : Json → List Json
  | .null => []
  | .array elements => elements
  | .object members => members.map Prod.snd
  | scalar => [scalar]

/-- A member put in its place in the order of keys; a key that is there already stays. -/
def insertMember (m : String × Json) : List (String × Json) → List (String × Json)
  | [] => [m]
  | x :: xs =>
    if m.1 < x.1 then m :: x :: xs
    else if m.1 = x.1 then x :: xs
    else x :: insertMember m xs

/-- The object of an initializer list of members. -/
def ofMembers (members : List (String × Json)) : Json :=
  .object (members.foldl (fun ms m => insertMember m ms) [])

end Json

/-! ## The library -/

/-- What the bricks use of the library beside the values themselves. Exceptions of the
    library are given by their `what()`. -/
structure NlohmannJson where
  /-- `json::parse`; throws a `parse_error` -/
  parse : String → Except String Json
  /-- `dump`; throws a `type_error` on text that is not UTF-8 -/
  dump : Json → Except String String
  /-- what `at(key)` throws on a value without that member -/
  atError : String → Json → String
  /-- what `get_to` throws on a value of another type -/
  typeError : Json → String
  /-- `static_cast<int>` of a double whose integral part is no `int`, on which C++ gives
      no guarantee -/
  castOutOfRange : Rat → Int32

namespace NlohmannJson

variable (lib : NlohmannJson)

/-- `j.at(key)`. -/
def atKey (j : Json) (key : String) : Except String Json :=
  match j.find? key with
  | some v => .ok v
  | none => .error (lib.atError key j)

/-- `j[key]`, which does not check that the member is there: without it the library throws a
    `type_error` or asserts. -/
def index (j : Json) (key : String) : Except String Json :=
  match j.find? key with
  | some v => .ok v
  | none => .error (lib.atError key j)

/-- `j.get_to(s)` for a `std::string`. -/
def getString (j : Json) : Except String String :=
  match j with
  | .string s => .ok s
  | _ => .error (lib.typeError j)

/-- The integral part of a double. -/
def truncate (q : Rat) : Int :=
  if 0 ≤ q then q.floor else q.ceil

/-- `j.get_to(i)` for an `int`: any number or boolean, by `static_cast`. -/
def getInt (j : Json) : Except String Int32 :=
  match j with
  | .numberInteger i => .ok (Int32.ofInt i)
  | .numberFloat q =>
    if -2 ^ 31 ≤ truncate q ∧ truncate q < 2 ^ 31 then .ok (Int32.ofInt (truncate q))
    else .ok (lib.castOutOfRange q)
  | .boolean b => .ok (if b then 1 else 0)
  | _ => .error (lib.typeError j)

end NlohmannJson

/-! ## Entities -/

/-- `to_json`, as every copy has it. -/
def entityToJson (entity : Entity) : Json :=
  .ofMembers [
    ("id", .string entity.id),
    ("string_property", .string entity.stringProperty),
    ("int_property", .numberInteger entity.intProperty.toInt)]

/-- `from_json`, as every copy has it. -/
def entityFromJson (lib : NlohmannJson) (entityJson : Json) : Except String Entity := do
  let id ← lib.getString (← lib.atKey entityJson "id")
  let stringProperty ← lib.getString (← lib.atKey entityJson "string_property")
  let intProperty ← lib.getInt (← lib.atKey entityJson "int_property")
  return { id, stringProperty, intProperty }

/-- A member goes before the first one with a greater key. -/
theorem Json.insertMember_of_lt {key key' : String} (h : key < key') (v v' : Json)
    (xs : List (String × Json)) :
    insertMember (key, v) ((key', v') :: xs) = (key, v) :: (key', v') :: xs :=
  if_pos h

/-- It goes after those with a lesser key. -/
theorem Json.insertMember_of_gt {key key' : String} (h : ¬key < key') (hne : key ≠ key')
    (v v' : Json) (xs : List (String × Json)) :
    insertMember (key, v) ((key', v') :: xs) = (key', v') :: insertMember (key, v) xs := by
  rw [insertMember, if_neg h, if_neg hne]

/-- The members in the order of their keys. -/
theorem entityToJson_eq (entity : Entity) :
    entityToJson entity = .object [
      ("id", .string entity.id),
      ("int_property", .numberInteger entity.intProperty.toInt),
      ("string_property", .string entity.stringProperty)] := by
  have hstring : ¬"string_property" < "id" := by decide
  have hstring' : "string_property" ≠ "id" := by decide
  have hint : ¬"int_property" < "id" := by decide
  have hint' : "int_property" ≠ "id" := by decide
  have hless : "int_property" < "string_property" := by decide
  show Json.object (Json.insertMember ("int_property", _)
    (Json.insertMember ("string_property", _) [("id", _)])) = _
  rw [Json.insertMember_of_gt hstring hstring', Json.insertMember_of_gt hint hint',
    Json.insertMember, Json.insertMember_of_lt hless]

/-- Decoding an encoded entity gives it back. -/
@[simp] theorem entityFromJson_entityToJson (lib : NlohmannJson) (entity : Entity) :
    entityFromJson lib (entityToJson entity) = .ok entity := by
  rw [entityToJson_eq]
  simp [entityFromJson, NlohmannJson.atKey, Json.find?, NlohmannJson.getString,
    NlohmannJson.getInt, bind, Except.bind, pure, Except.pure]

/-- The library prints and reads back the document of an entity, as it does for every
    entity whose strings are UTF-8. -/
def NlohmannJson.RoundTrips (lib : NlohmannJson) (entity : Entity) : Prop :=
  ∃ text, lib.dump (entityToJson entity) = .ok text ∧ lib.parse text = .ok (entityToJson entity)

/-! ## The entity of the usage examples -/

/-- The entity of the usage examples. -/
def exampleEntity : Entity := ⟨"test", "str", 42⟩

/-- Its text. -/
def exampleText : String :=
  "\x7b\"id\":\"test\",\"int_property\":42,\"string_property\":\"str\"\x7d"

end SapperBricks
