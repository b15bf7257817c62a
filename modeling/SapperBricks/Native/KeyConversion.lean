import SapperBricks.ForStd.Handles
import SapperBricks.Native.KeyProvider

/-!
# The conversion of a key to PEM

`toPEM_PubKey` with the objects of OpenSSL that it acquires, owns, gives away and frees, and
`extractPubKeysPEM` with it. OpenSSL, and the memory stream of the C library, may let any call fail,
in each conversion another one.
-/

namespace SapperBricks

open Handles

/-- What OpenSSL and the C library have for a conversion. -/
inductive Object where
  | bignum
  | osslParamBld
  | osslParam
  | evpPKeyCtx
  | evpPKey
  /-- the stream of `open_memstream` -/
  | file
  /-- what the stream has in memory -/
  | buf
deriving DecidableEq, Repr

/-- How the calls end in the conversion of a key: whether a constructor gives an object, and what a
    function returns. What they are given of the key is left to them. -/
structure Conversion where
  /-- `BN_bin2bn` of the modulus and of the exponent -/
  bn : Bool × Bool
  /-- `OSSL_PARAM_BLD_new` -/
  paramBld : Bool
  /-- `OSSL_PARAM_BLD_push_BN` of the modulus and of the exponent -/
  pushBN : Int × Int
  /-- `OSSL_PARAM_BLD_to_param` -/
  toParam : Bool
  /-- `EVP_PKEY_CTX_new_from_name` -/
  ctx : Bool
  fromdataInit : Int
  /-- `EVP_PKEY_fromdata`, which gives a key exactly if it returns a positive number -/
  fromdata : Int
  openMemstream : Bool
  pemWritePUBKEY : Int
  fflush : Int

namespace Conversion

variable (self : Conversion)

/-- `OSSL_PARAM_BLD_push_BN`: the builder keeps the number, which it does not own. -/
def push (paramBld bn : Option (Handle Object)) (result : Int) : Prog Object Exn Int := do
  use paramBld
  use bn
  return result

/-- `toPEM_PubKey` from the key that was made on. -/
def writeKey (pem : String) (pubKey : Option (Handle Object)) : Prog Object Exn String := do
  let stream ← acquire .file self.openMemstream
  throwIf stream.isNone (.runtimeError "unable to open memory stream")
  -- The memory of the stream, which is the caller's
  let buf ← acquire .buf true
  use stream
  use pubKey
  let failed ← pure (decide (self.pemWritePUBKEY ≤ 0)) <||>
    (do use stream; return decide (self.fflush ≠ 0))
  if failed then do
    free stream
    free buf
    throw (.runtimeError "OSSL: unable write key")
  else do
    use buf
    free stream
    free buf
    return pem

/-- `toPEM_PubKey` from the parameters on. -/
def makeKey (pem : String) (params : Option (Handle Object)) : Prog Object Exn String := do
  throwIf params.isNone (.runtimeError "OSSL: unable to create params")
  let ctx ← acquire .evpPKeyCtx self.ctx
  unique ctx do
    throwIf ctx.isNone (.runtimeError "OSSL: unable to create context")
    -- Each of the two conditions throws the same
    use ctx
    throwIf (self.fromdataInit ≤ 0) (.runtimeError "OSSL: unable to initialize key")
    use ctx
    use params
    let pubKey ← acquire .evpPKey (self.fromdata > 0)
    throwIf (self.fromdata ≤ 0) (.runtimeError "OSSL: unable to initialize key")
    unique pubKey (self.writeKey pem pubKey)

/-- Whether the numbers cannot be handed to the builder. Each is released when its turn comes. -/
def pushNumbers (n e paramBld : Option (Handle Object)) : Prog Object Exn Bool :=
  pure paramBld.isNone <||>
  (do return decide ((← push paramBld (← release n) self.pushBN.1) = 0)) <||>
  (do return decide ((← push paramBld (← release e) self.pushBN.2) = 0))

/-- `toPEM_PubKey` from the builder on. -/
def makeParams (pem : String) (n e paramBld : Option (Handle Object)) : Prog Object Exn String := do
  let failed ← self.pushNumbers n e paramBld
  throwIf failed (.runtimeError "OSSL: unable to init the param builder")
  -- The builder reads the numbers that it was given
  use paramBld
  use n
  use e
  let params ← acquire .osslParam self.toParam
  unique params (self.makeKey pem params)

/-- `toPEM_PubKey` of a key with this PEM text. -/
def toPEMPubKey (pem : String) : Prog Object Exn String := do
  let n ← acquire .bignum self.bn.1
  unique n do
    throwIf n.isNone (.runtimeError "OSSL: unable to convert the modulus to a bignum")
    let e ← acquire .bignum self.bn.2
    unique e do
      throwIf e.isNone (.runtimeError "OSSL: unable to convert the exponent to a bignum")
      let paramBld ← acquire .osslParamBld self.paramBld
      unique paramBld (self.makeParams pem n e paramBld)

end Conversion

/-- OpenSSL: what the keys are in PEM, and how each conversion goes. -/
structure OpenSSL where
  pem : RS256Key → String
  /-- the conversion of the `k`-th key of the `n`-th JWKS -/
  conversion : Nat → Nat → Conversion

namespace OpenSSL

variable (self : OpenSSL)

/-- The loop of `extractPubKeysPEM` from the `k`-th key of the `n`-th JWKS on. -/
def insertPubKeys (n : Nat) : Nat → List RS256Key → KeyMap → Prog Object Exn KeyMap
  | _, [], keys => return keys
  | k, key :: rest, keys => do
    let pem ← (self.conversion n k).toPEMPubKey (self.pem key)
    insertPubKeys n (k + 1) rest (keys.insert key.id pem)

/-- `extractPubKeysPEM`. -/
def extractPubKeys (lib : NlohmannJson) (n : Nat) (jwksJson : String) : Prog Object Exn KeyMap :=
  match parseRS256Keys lib jwksJson with
  | .error e => throw e
  | .ok keys => self.insertPubKeys n 0 keys ∅

/-- The `try` block of `updateKeyCache` on the `n`-th answer of the JWKS provider. -/
def fetchKeys (lib : NlohmannJson) (n : Nat) (answer : Except Exn String) :
    Prog Object Exn KeyMap :=
  match answer with
  | .error e => throw e
  | .ok jwks => do
    let keys ← self.extractPubKeys lib n jwks
    throwIf keys.isEmpty (.runtimeError "RestJwksRSAKeyProvider: no keys found")
    return keys

/-- What a number of calls of the JWKS provider come to, and the heap after them. They are made one
    at a time, under the exclusive lock or by the constructor. -/
def requests (lib : NlohmannJson) (jwksProvider : Nat → Except Exn String) :
    Nat → Option (List (Except Exn KeyMap) × Heap Object)
  | 0 => some ([], .empty)
  | n + 1 => do
    let (results, h) ← requests lib jwksProvider n
    let (r, h) ← self.fetchKeys lib n (jwksProvider n) h
    return (results ++ [r], h)

end OpenSSL

end SapperBricks
