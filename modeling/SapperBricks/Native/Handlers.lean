import SapperBricks.ForStd.Interleaving
import SapperBricks.ForStd.Monitor
import SapperBricks.Native.Ports

/-!
# Starting and stopping handlers

`Handle` and `Stop` of the handlers for Pub/Sub and gRPC (`handler-pubsub.cpp`,
`handler-grpc.cpp`). `main` installs the graceful shutdown before it calls `Handle`, so
`Stop` is called on other threads, at any time and any number of times.
-/

namespace SapperBricks

/-- A call of `mse::Handler`: the one of `Handle`, or one of those of `Stop`. -/
inductive HandlerCall (ι : Type) where
  | handle
  | stop (i : ι)
deriving DecidableEq, Repr

/-! ## Pub/Sub -/

/-- `PubSubHandler`, with what comes of connecting and subscribing to its subscription. -/
structure PubSubHandler where
  subscribe : Except Exn Unit

namespace PubSubHandler

/-- `_stop_requested`, and whether messages are received. -/
structure State where
  stopRequested : Bool := false
  subscribed : Bool := false
deriving DecidableEq, Repr

/-- Where a thread is in `Handle` or in `Stop`. -/
inductive Loc where
  /-- `Handle`: the constructor of `unique_lock` -/
  | lockForHandle
  | subscribe
  /-- the predicate of `_stop_cv.wait` -/
  | checkStopRequested
  /-- `wait` where the predicate does not hold -/
  | waitForStop
  /-- `cancel` and `get` of the future -/
  | cancel
  /-- the destructor of `unique_lock` -/
  | unlockAfterHandle
  | handled
  /-- the destructor of `unique_lock` when subscribing throws -/
  | unwind
  | handleThrew
  /-- `Stop`: the constructor of `lock_guard` -/
  | lockForStop
  | setStopRequested
  /-- the destructor of `lock_guard` -/
  | unlockAfterStop
  | notify
  | stopped
deriving DecidableEq, Repr

/-- The code of `Handle` and `Stop`. -/
def program (self : PubSubHandler) (ι : Type) : Monitor.Program (HandlerCall ι) Loc State where
  start
    | .handle => .lockForHandle
    | .stop _ => .lockForStop
  instr
    | .lockForHandle => .lock .subscribe
    | .subscribe => .act fun s =>
      match self.subscribe with
      | .error _ => (.unwind, s)
      | .ok () => (.checkStopRequested, { s with subscribed := true })
    -- `wait(lock, pred)` is `while (!pred()) wait(lock)`, so a wakeup leads back to the predicate
    | .checkStopRequested => .act fun s =>
      (if s.stopRequested then .cancel else .waitForStop, s)
    | .waitForStop => .wait .checkStopRequested
    | .cancel => .act fun s => (.unlockAfterHandle, { s with subscribed := false })
    | .unlockAfterHandle => .unlock .handled
    | .handled => .ret
    | .unwind => .unlock .handleThrew
    | .handleThrew => .ret
    | .lockForStop => .lock .setStopRequested
    | .setStopRequested => .act fun s => (.unlockAfterStop, { s with stopRequested := true })
    -- The lock is given back at the end of its block, before `notify_one`
    | .unlockAfterStop => .unlock .notify
    | .notify => .notifyOne .stopped
    | .stopped => .ret

end PubSubHandler

/-! ## gRPC -/

/-- `GrpcHandler::Impl`, with what `BuildAndStart` returns: a server, or null. -/
structure GrpcHandler where
  startsServer : Bool

namespace GrpcHandler

/-- `grpc::Server`. -/
structure Server where
  shutdownRequested : Bool := false
deriving DecidableEq, Repr

/-- `_server`. -/
structure State where
  server : Option Server := none
deriving DecidableEq, Repr

/-- Where a thread is in `Handle` or in `Stop`. -/
inductive Loc where
  /-- `Handle`: `BuildAndStart` -/
  | buildAndStart
  /-- the assignment of `_server` -/
  | store (server : Option Server)
  /-- the call of `Wait` -/
  | callWait
  | waiting
  /-- `Stop`: the call of `Shutdown` -/
  | callShutdown
deriving DecidableEq, Repr

/-- What becomes of a call: it is done, or it has called a member function of no server. -/
inductive Outcome where
  | done
  | nullServer
deriving DecidableEq, Repr

/-- `Handle` and `Stop` as their steps. A thread in `Wait` stays there until the shutdown of
    its server is requested. -/
def calls (self : GrpcHandler) (ι : Type) :
    Interleaving.Proc (HandlerCall ι) Loc State Outcome where
  start
    | .handle => .buildAndStart
    | .stop _ => .callShutdown
  exec
    | .buildAndStart, s => (.inl (.store (if self.startsServer then some {} else none)), s)
    -- A `Stop` may come between `BuildAndStart` and the assignment
    | .store server, _ => (.inl .callWait, ⟨server⟩)
    | .callWait, s =>
      match s.server with
      | none => (.inr .nullServer, s)
      | some _ => (.inl .waiting, s)
    | .waiting, s =>
      match s.server with
      | some ⟨true⟩ => (.inr .done, s)
      | _ => (.inl .waiting, s)
    | .callShutdown, s =>
      match s.server with
      | none => (.inr .nullServer, s)
      | some server => (.inr .done, ⟨some { server with shutdownRequested := true }⟩)

end GrpcHandler

end SapperBricks
