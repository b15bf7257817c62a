import SapperBricks.Native.Ports

/-!
# Request hooks

What the bricks use of the request issuer of microservice-essentials: an attempt that is
repeated while its status can be retried, exceptions that are mapped to statuses, and
statuses that are forwarded to the caller as exceptions. Waiting between attempts is left
out.
-/

namespace SapperBricks

/-! ## Retrying -/

/-- `RetryRequestHook` with an `ExponentialRetryBackoff`. -/
structure RetryHook where
  maxRetryCount : Nat
  /-- the status codes that are retried -/
  retriable : StatusCode → Bool
  retriable_unavailable : retriable .unavailable = true
  not_retriable_ok : retriable .ok = false

namespace RetryHook

variable {σ : Type}

/-- Whether an attempt is followed by another one. An exception passes through the hook. -/
def retries (self : RetryHook) : Except Exn Status → Bool
  | .ok status => self.retriable status.code
  | .error _ => false

/-- An attempt and at most `n` more. -/
def process (self : RetryHook) (attempt : σ → Except Exn Status × σ) :
    Nat → σ → Except Exn Status × σ
  | 0, s => attempt s
  | n + 1, s =>
    let r := attempt s
    if self.retries r.1 then self.process attempt n r.2 else r

end RetryHook

/-! ## Exceptions and statuses -/

/-- `ExceptionHandlingRequestHook` with a mapper for `pqxx::broken_connection`. Any other
    exception is thrown on or becomes the status of a failure that is not retried. -/
structure ExceptionHook (retry : RetryHook) where
  handle : Exn → Except Exn Status
  handle_broken : ∀ e, e.isBrokenConnection = true → handle e = .ok ⟨.unavailable, ""⟩
  handle_other : ∀ e status, e.isBrokenConnection = false → handle e = .ok status →
    status.code ≠ .ok ∧ retry.retriable status.code = false

/-- The result of an attempt once its exceptions are handled. -/
def ExceptionHook.process {retry : RetryHook} (self : ExceptionHook retry) :
    Except Exn Status → Except Exn Status
  | .ok status => .ok status
  | .error e => self.handle e

/-- `ErrorForwardingRequestHook` with `IncludeAllErrorCodes`, and the caller that ignores
    the status. -/
def forwardErrors : Except Exn Status → Except Exn Unit
  | .ok status =>
    if status.code = .ok then .ok () else .error (.errorForwarding status status.details)
  | .error e => .error e

end SapperBricks
