import SapperBricks.ForStd.Interleaving
import SapperBricks.Native.Json

/-!
# RSA public keys from a JWKS

`impl/key_conversion.cpp` and `rest-jwks-rsa-key-provider.cpp` of the *security-jwt-auth*
brick: which elements of a JWKS are accepted as signature keys, and the cache of their PEM
texts that any number of threads and copies of a provider share.

The conversion of one key to PEM (`toPEM_PubKey`) is done by OpenSSL and is a parameter: a
function that may throw.
-/

namespace SapperBricks

/-! ## Key conversion -/

/-- `RS256Key`. -/
structure RS256Key where
  id : String
  modulusBase64 : String
  exponentBase64 : String
deriving DecidableEq, Repr

/-- `std::map` from key ids to PEM texts. -/
abbrev KeyMap := Std.ExtTreeMap String String

/-- The body of the loop of `parse_RS256Keys`: the key pushed for an element of `keys`, if
    the element is not skipped. -/
def rs256Key? (key : Json) : Option RS256Key :=
  if ¬ (key.stringAt? "use" = some "sig" ∨
      key.stringAt? "key_ops" = some "sign" ∨ key.stringAt? "key_ops" = some "verify") then
    none
  else if ¬ key.stringAt? "kty" = some "RSA" then
    none
  else
    match key.stringAt? "kid", key.stringAt? "n", key.stringAt? "e" with
    | some kid, some n, some e =>
      if kid = "" ∨ n = "" ∨ e = "" then none else some ⟨kid, n, e⟩
    | _, _, _ => none

/-- `parse_RS256Keys`. -/
def parseRS256Keys (lib : NlohmannJson) (jwksJson : String) : Except Exn (List RS256Key) :=
  match lib.parse jwksJson with
  | .error what => .error (.jsonException what)
  | .ok j =>
    match j.find? "keys" with
    | none => .ok []
    | some keys => .ok (keys.iterate.filterMap rs256Key?)

/-! The same with every access and conversion of its own: each throws on a value without the
member or of another type, unless a condition before it made sure of both. -/

/-- `key.contains(name) && key[name].is_string()`. -/
def hasString (lib : NlohmannJson) (key : Json) (name : String) : Except String Bool :=
  pure (key.contains name) <&&> return (← lib.index key name).string?.isSome

/-- `key[name] == text`. -/
def memberIs (lib : NlohmannJson) (key : Json) (name text : String) : Except String Bool :=
  return (← lib.index key name).string? = some text

/-- The body of the loop of `parse_RS256Keys`. -/
def pushRS256Key (lib : NlohmannJson) (result : List RS256Key) (key : Json) :
    Except String (List RS256Key) := do
  if !(← (hasString lib key "use" <&&> memberIs lib key "use" "sig") <||>
      (hasString lib key "key_ops" <&&>
        (memberIs lib key "key_ops" "sign" <||> memberIs lib key "key_ops" "verify"))) then
    return result
  if !(← hasString lib key "kty" <&&> memberIs lib key "kty" "RSA") then
    return result
  if !(← hasString lib key "kid" <&&> hasString lib key "n" <&&> hasString lib key "e") then
    return result
  let id ← lib.getString (← lib.index key "kid")
  let modulusBase64 ← lib.getString (← lib.index key "n")
  let exponentBase64 ← lib.getString (← lib.index key "e")
  if id = "" ∨ modulusBase64 = "" ∨ exponentBase64 = "" then
    return result
  return result ++ [⟨id, modulusBase64, exponentBase64⟩]

/-- `parse_RS256Keys`. -/
def parseRS256KeysByAccess (lib : NlohmannJson) (jwksJson : String) :
    Except Exn (List RS256Key) :=
  Except.mapError .jsonException do
    let j ← lib.parse jwksJson
    if j.contains "keys" then
      (← lib.index j "keys").iterate.foldlM (pushRS256Key lib) []
    else return []

/-- The loop of `extractPubKeysPEM` from a map that holds the keys before. -/
def insertPubKeysPEM (toPEM : RS256Key → Except Exn String) :
    List RS256Key → KeyMap → Except Exn KeyMap
  | [], keys => .ok keys
  | key :: rest, keys =>
    match toPEM key with
    | .error e => .error e
    | .ok pem => insertPubKeysPEM toPEM rest (keys.insert key.id pem)

/-- `extractPubKeysPEM`. -/
def extractPubKeysPEM (lib : NlohmannJson) (toPEM : RS256Key → Except Exn String)
    (jwksJson : String) : Except Exn KeyMap :=
  match parseRS256Keys lib jwksJson with
  | .error e => .error e
  | .ok keys => insertPubKeysPEM toPEM keys ∅

/-! ## Requesting a JWKS -/

/-- `httplib::Result`: an error other than `Success`, given by its text, or a response. -/
inductive HttpResult where
  | failed (error : String)
  | response (status : Int) (body : String)
deriving DecidableEq, Repr

/-- `requestJWKS`, from what `ToUrl`, the client and `Get` throw or return. -/
def requestJWKS : Except Exn HttpResult → Except Exn String
  | .error e => .error e
  | .ok (.failed error) =>
    .error (.errorForwarding ⟨.unavailable, ""⟩ ("requesting JWKS resulted in error: " ++ error))
  | .ok (.response status body) =>
    if status = 0 then
      .error (.errorForwarding ⟨.unavailable, ""⟩
        ("requesting JWKS returned with status " ++ toString status))
    else .ok body

/-! ## The provider -/

/-- `RestJwksRSAKeyProvider`. The callable `_jwks_provider` answers its `n`-th call with
    `jwksProvider n`: a string, or a throw. Copies of a provider share the cache and hold
    copies of the callable; `n` counts the calls of all of them. -/
structure RestJwksRSAKeyProvider where
  json : NlohmannJson
  toPEMPubKey : RS256Key → Except Exn String
  jwksProvider : Nat → Except Exn String
  throwOnError : Bool

namespace RestJwksRSAKeyProvider

/-- What the copies of a provider share and leave behind: the data of the cache, how often
    the callable was called, and the errors that were logged. -/
structure State where
  data : KeyMap
  providerCalls : Nat
  log : List String

variable (self : RestJwksRSAKeyProvider)

/-- The `try` block of `updateKeyCache` on the answer of the `n`-th call: the keys that
    become the data of the cache, or what is thrown. -/
def fetchKeys (n : Nat) : Except Exn KeyMap :=
  match self.jwksProvider n with
  | .error e => .error e
  | .ok jwks =>
    match extractPubKeysPEM self.json self.toPEMPubKey jwks with
    | .error e => .error e
    | .ok keys =>
      if keys.isEmpty then .error (.runtimeError "RestJwksRSAKeyProvider: no keys found")
      else .ok keys

/-- The text logged for an exception that is not thrown on. -/
def errorText (e : Exn) : String :=
  match e.what? with
  | some what => "unable to obtain JWKS: " ++ what
  | none => "unable to obtain JWKS for unknown reasons."

/-- `updateKeyCache`. -/
def updateKeyCache (s : State) : Except Exn Unit × State :=
  match self.fetchKeys s.providerCalls with
  | .ok keys => (.ok (), { s with data := keys, providerCalls := s.providerCalls + 1 })
  | .error e =>
    if self.throwOnError then (.error e, { s with providerCalls := s.providerCalls + 1 })
    else (.ok (), { s with
      providerCalls := s.providerCalls + 1
      log := s.log ++ [errorText e] })

/-- The body of the constructor that takes a callable: a cache filled by a first call, or
    no provider when that throws. -/
def construct : Except Exn State :=
  match self.updateKeyCache ⟨∅, 0, []⟩ with
  | (.error e, _) => .error e
  | (.ok (), s) => .ok s

/-- The constructor that takes a callable. -/
def ofProvider (json : NlohmannJson) (toPEM : RS256Key → Except Exn String)
    (jwksProvider : Nat → Except Exn String) (throwOnError : Bool) : RestJwksRSAKeyProvider :=
  { json, toPEMPubKey := toPEM, jwksProvider, throwOnError }

/-- The constructor that takes the address of a JWKS, where the `n`-th request of it ends
    with `get n`. It delegates without its second argument, whose default is `true`. -/
def ofUri (json : NlohmannJson) (toPEM : RS256Key → Except Exn String)
    (get : Nat → Except Exn HttpResult) (_throwOnError : Bool) : RestJwksRSAKeyProvider :=
  ofProvider json toPEM (fun n => requestJWKS (get n)) true

/-- The section of `operator()` under the shared lock: the key, if it is in the cache. -/
def sharedLookup (keyId : String) (s : State) : Option String :=
  s.data[keyId]?

/-- The section of `operator()` under the exclusive lock, and what follows it. -/
def exclusiveLookup (keyId : String) (s : State) : Except Exn String × State :=
  match s.data[keyId]? with
  | some pem => (.ok pem, s)
  | none =>
    match self.updateKeyCache s with
    | (.error e, s') => (.error e, s')
    | (.ok (), s') =>
      match s'.data[keyId]? with
      | some pem => (.ok pem, s')
      | none => (.ok "", s')

/-- Where a thread is in `operator()`: before the shared or before the exclusive lock. -/
inductive LookupLoc where
  | shared (keyId : String)
  | exclusive (keyId : String)
deriving DecidableEq, Repr

/-- The key id a thread in `operator()` was called with. -/
def LookupLoc.keyId : LookupLoc → String
  | .shared keyId => keyId
  | .exclusive keyId => keyId

/-- `operator()` as its two sections; between them other threads may run theirs. -/
def lookup : Interleaving.Proc String LookupLoc State (Except Exn String) where
  start := .shared
  exec
    | .shared keyId, s =>
      match sharedLookup keyId s with
      | some pem => (.inr (.ok pem), s)
      | none => (.inl (.exclusive keyId), s)
    | .exclusive keyId, s =>
      ((.inr (self.exclusiveLookup keyId s).1), (self.exclusiveLookup keyId s).2)

/-- `operator()` called by a thread that is alone. -/
def lookupAlone (keyId : String) (s : State) : Except Exn String × State :=
  match sharedLookup keyId s with
  | some pem => (.ok pem, s)
  | none => self.exclusiveLookup keyId s

end RestJwksRSAKeyProvider

end SapperBricks
