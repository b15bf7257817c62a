import Mathlib.Algebra.Order.Ring.Int
import Mathlib.Tactic.Common

/-!
# Ports and core of the hexagonal skeleton

The entity, the interfaces between the core and its adapters, and the core itself
(`ports/*.h`, `core/core.cpp`), together with the statuses and exceptions the bricks
exchange.

A `std::string` is a sequence of bytes. It is modelled by the `String` whose characters
are these bytes, so that lengths, comparisons and the ASCII characters the bricks look for
are those of the source; a text outside ASCII is the string of its UTF-8 bytes.

A member function that may change a state `σ` and may throw is a function
`σ → Except Exn α × σ`: what it changed before it threw stays changed.
-/

namespace SapperBricks

/-! ## Statuses and exceptions -/

/-- `mse::StatusCode`, as far as the bricks name its values. -/
inductive StatusCode where
  | ok
  | invalidArgument
  | notFound
  | unauthenticated
  | unavailable
  | other (code : Nat)
deriving DecidableEq, Repr

/-- `mse::Status`. -/
structure Status where
  code : StatusCode
  details : String
deriving DecidableEq, Repr

/-- `mse::Status::OK`. -/
def Status.ok : Status := ⟨.ok, ""⟩

/-- What the source and the libraries it calls throw. -/
inductive Exn where
  | runtimeError (what : String)
  | invalidArgument (what : String)
  | jsonException (what : String)
  | brokenConnection (what : String)
  | errorForwarding (status : Status) (details : String)
  | badOptionalAccess
  | badAnyCast
  /-- any other class derived from `std::exception` -/
  | stdException (what : String)
  /-- an object of any other type -/
  | unknown
deriving DecidableEq, Repr

/-- `what()` of the exceptions that `catch(const std::exception&)` catches. -/
def Exn.what? : Exn → Option String
  | .runtimeError what => some what
  | .invalidArgument what => some what
  | .jsonException what => some what
  | .brokenConnection what => some what
  | .errorForwarding _ details => some details
  | .badOptionalAccess => some "bad optional access"
  | .badAnyCast => some "bad any_cast"
  | .stdException what => some what
  | .unknown => none

/-- Whether `catch(const pqxx::broken_connection&)` catches an exception. -/
def Exn.isBrokenConnection : Exn → Bool
  | .brokenConnection _ => true
  | _ => false

/-! ## Ports -/

/-- `Entity`. -/
structure Entity where
  id : String
  stringProperty : String
  intProperty : Int32
deriving DecidableEq, Repr

/-- `EntityRepo`, for a repo whose state is `σ`. -/
structure EntityRepo (σ : Type) where
  store : Entity → σ → Except Exn Unit × σ
  retrieve : String → σ → Except Exn (Option Entity) × σ

/-- `EntityNotifier`, for a notifier whose state is `ν`. -/
structure EntityNotifier (ν : Type) where
  entityChanged : Entity → ν → Except Exn Unit × ν

/-! ## Core -/

/-- `Core`: either pointer may be null. -/
structure Core (σ ν : Type) where
  repo : Option (EntityRepo σ)
  notifier : Option (EntityNotifier ν)

namespace Core

variable {σ ν : Type}

/-- `Core::SetEntity`. -/
def setEntity (core : Core σ ν) (entity : Entity) (s : σ × ν) : Except Exn Unit × (σ × ν) :=
  match core.repo with
  | none => (.error (.runtimeError "invalid repo"), s)
  | some repo =>
    if entity.id = "" then (.error (.invalidArgument "invalid id"), s)
    else
      match repo.store entity s.1 with
      | (.error e, repo') => (.error e, (repo', s.2))
      | (.ok (), repo') =>
        match core.notifier with
        | none => (.ok (), (repo', s.2))
        | some notifier =>
          let r := notifier.entityChanged entity s.2
          (r.1, (repo', r.2))

/-- `Core::GetEntity`. -/
def getEntity (core : Core σ ν) (id : String) (s : σ × ν) :
    Except Exn (Option Entity) × (σ × ν) :=
  match core.repo with
  | none => (.error (.runtimeError "invalid repo"), s)
  | some repo =>
    if id = "" then (.error (.invalidArgument "invalid id"), s)
    else
      let r := repo.retrieve id s.1
      (r.1, (r.2, s.2))

/-! ## Sequences of calls -/

/-- A call of one of the two functions of `Api`. -/
inductive Call where
  | setEntity (entity : Entity)
  | getEntity (id : String)
deriving DecidableEq, Repr

/-- What a call returned or threw. -/
inductive Result where
  | set (result : Except Exn Unit)
  | got (result : Except Exn (Option Entity))

/-- One call. -/
def call (core : Core σ ν) : Call → σ × ν → Result × (σ × ν)
  | .setEntity entity, s => (.set (core.setEntity entity s).1, (core.setEntity entity s).2)
  | .getEntity id, s => (.got (core.getEntity id s).1, (core.getEntity id s).2)

/-- Calls one after the other, whatever they return or throw. -/
def run (core : Core σ ν) : List Call → σ × ν → List Result × (σ × ν)
  | [], s => ([], s)
  | c :: cs, s =>
    let r := core.call c s
    let rs := core.run cs r.2
    (r.1 :: rs.1, rs.2)

end Core

end SapperBricks
