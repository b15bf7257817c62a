import SapperBricks.ForStd.Escapes
import SapperBricks.Native.Json
import SapperBricks.Native.Request
import SapperBricks.Native.StdString

/-!
# HTTP handler and notifier

The handler that serves the core over HTTP (`handler-http.cpp`), the notifier that puts
changed entities to such a handler (`notifier-http.cpp`), and what lies between them: the
target of a request, its path at the server, and the routes. Headers, timeouts and the
waiting of the server for requests are left out.
-/

namespace SapperBricks

open Escapes

/-! ## Requests and responses -/

/-- `httplib::Request`. -/
structure HttpRequest where
  path : String
  body : String
deriving DecidableEq, Repr

/-- `httplib::Response`, as it is before a handler fills it in. -/
structure HttpResponse where
  status : Int := -1
  body : String := ""
  contentType : String := ""
deriving DecidableEq, Repr

/-- `set_content`. -/
def HttpResponse.setContent (response : HttpResponse) (body contentType : String) :
    HttpResponse :=
  { response with body, contentType }

/-- `mse::ToHttpStatusCode` and `mse::FromHttpStatusCode`. -/
structure StatusConverter where
  toHttp : StatusCode → Int
  fromHttp : Int → StatusCode
  from_to_ok : fromHttp (toHttp .ok) = .ok
  from_to_failure : ∀ code, code ≠ .ok → fromHttp (toHttp code) ≠ .ok
  from_notFound : fromHttp 404 ≠ .ok

/-- `mse::RequestHandler` with the hook that `main` registers, the
    `ExceptionHandlingRequestHook`: every exception becomes a status, that of a failure
    unless the exception forwards another one. -/
structure RequestHandler where
  handle : Exn → Status
  handle_failure : ∀ e, (∀ status details, e = .errorForwarding status details →
    status.code ≠ .ok) → (handle e).code ≠ .ok
  handle_invalidArgument : ∀ what, (handle (.invalidArgument what)).code = .invalidArgument

/-- `Process`. -/
def RequestHandler.process (self : RequestHandler) : Except Exn Status → Status
  | .ok status => status
  | .error e => self.handle e

/-! ## Paths -/

/-- The value of a hexadecimal digit. -/
def hexDigit (c : Char) : Option Nat :=
  if '0' ≤ c ∧ c ≤ '9' then some (c.toNat - '0'.toNat)
  else if 'a' ≤ c ∧ c ≤ 'f' then some (c.toNat - 'a'.toNat + 10)
  else if 'A' ≤ c ∧ c ≤ 'F' then some (c.toNat - 'A'.toNat + 10)
  else none

/-- The character that a percent sign and two digits stand for. -/
def percentEscape (sign high low : Char) : Option Char :=
  if sign = '%' then
    match hexDigit high, hexDigit low with
    | some m, some n => some (Char.ofNat (16 * m + n))
    | _, _ => none
  else none

/-- The path of a request at the server: its target up to the first question mark, percent
    decoded. -/
def requestPath (target : String) : String :=
  String.ofList (unescape percentEscape (target.toList.takeWhile (· != '?')))

/-- The characters that `.` matches in a `std::regex`. -/
def regexDot (c : Char) : Bool :=
  c != '\n' && c != '\r'

/-- The group captured when `/Entity/(.*)` matches a path. -/
def matchRoute (path : String) : Option String :=
  if substrTo path (some "/Entity/".length) = "/Entity/" ∧
      (substr path "/Entity/".length).toList.all regexDot then
    some (substr path "/Entity/".length)
  else none

namespace HttpHandler

/-- The second group captured when `/(.*)/(.*)` matches a path. The first group takes as
    much as it can, so it ends before the last slash. -/
def matchLastSegment (path : String) : Option String :=
  match path.toList with
  | '/' :: rest =>
    if rest.all regexDot ∧ '/' ∈ rest then some (String.ofList (rest.rtakeWhile (· != '/')))
    else none
  | _ => none

/-- `extractId`. -/
def extractId (path : String) : Except Exn String :=
  match matchLastSegment path with
  | none => .error (.invalidArgument "invalid URL")
  | some id => .ok id

end HttpHandler

/-! ## The handler -/

/-- `HttpHandler`. -/
structure HttpHandler (σ ν : Type) where
  json : NlohmannJson
  requestHandler : RequestHandler
  converter : StatusConverter
  api : Core σ ν

/-- The methods that have a route. -/
inductive HttpMethod where
  | get
  | put
deriving DecidableEq, Repr

namespace HttpHandler

variable {σ ν : Type} (self : HttpHandler σ ν)

/-- `to_json`. -/
def toJson : Entity → Json := entityToJson

/-- `from_json`. -/
def fromJson : Json → Except String Entity := entityFromJson self.json

/-- What `getEntity` processes as a request. -/
def getEntityRequest (request : HttpRequest) (response : HttpResponse) (s : σ × ν) :
    Except Exn Status × (HttpResponse × (σ × ν)) :=
  match extractId request.path with
  | .error e => (.error e, (response, s))
  | .ok id =>
    match self.api.getEntity id s with
    | (.error e, s) => (.error e, (response, s))
    | (.ok none, s) => (.ok ⟨.notFound, "unknown entity with id " ++ id⟩, (response, s))
    | (.ok (some e), s) =>
      match self.json.dump (toJson e) with
      | .error what => (.error (.jsonException what), (response, s))
      | .ok text => (.ok .ok, (response.setContent text "application/json", s))

/-- What `setEntity` processes as a request. -/
def setEntityRequest (request : HttpRequest) (s : σ × ν) : Except Exn Status × (σ × ν) :=
  match self.json.parse request.body >>= self.fromJson with
  | .error what => (.error (.invalidArgument what), s)
  | .ok e =>
    match extractId request.path with
    | .error ex => (.error ex, s)
    | .ok id =>
      if e.id ≠ id then (.error (.invalidArgument "inconsistent id"), s)
      else
        match self.api.setEntity e s with
        | (.error ex, s) => (.error ex, s)
        | (.ok (), s) => (.ok .ok, s)

/-- The response once the status of the request is known. -/
def finish (status : Status) (response : HttpResponse) : HttpResponse :=
  let response := { response with status := self.converter.toHttp status.code }
  if status.code ≠ .ok then { response with body := status.details } else response

/-- `HttpHandler::getEntity`. -/
def getEntity (request : HttpRequest) (s : σ × ν) : HttpResponse × (σ × ν) :=
  let r := self.getEntityRequest request {} s
  (self.finish (self.requestHandler.process r.1) r.2.1, r.2.2)

/-- `HttpHandler::setEntity`. -/
def setEntity (request : HttpRequest) (s : σ × ν) : HttpResponse × (σ × ν) :=
  let r := self.setEntityRequest request s
  (self.finish (self.requestHandler.process r.1) {}, r.2)

/-- What the server does with a request whose path is decoded: the routes of the constructor, and the
    answer of the library where none of them matches. -/
def handleRequest (method : HttpMethod) (request : HttpRequest) (s : σ × ν) :
    HttpResponse × (σ × ν) :=
  match matchRoute request.path, method with
  | none, _ => (⟨404, "", ""⟩, s)
  | some _, .get => self.getEntity request s
  | some _, .put => self.setEntity request s

/-- What it does with a request for a target. -/
def serve (method : HttpMethod) (target body : String) (s : σ × ν) : HttpResponse × (σ × ν) :=
  self.handleRequest method ⟨requestPath target, body⟩ s

/-- The state that requests leave, one after the other. -/
def after (requests : List (HttpMethod × HttpRequest)) (s : σ × ν) : σ × ν :=
  requests.foldl (fun s r => (self.handleRequest r.1 r.2 s).2) s

end HttpHandler

/-! ## The notifier -/

/-- `httplib::Client` connected to a server whose state is `β`: a put with its target, body
    and content type, and the response or an error other than `Success`. -/
structure HttpClient (β : Type) where
  put : String → String → String → β → Except String HttpResponse × β

/-- `HttpNotifier`. -/
structure HttpNotifier (β : Type) where
  json : NlohmannJson
  converter : StatusConverter
  retry : RetryHook
  client : HttpClient β

namespace HttpNotifier

variable {β : Type} (self : HttpNotifier β)

/-- `to_json`. -/
def toJson : Entity → Json := entityToJson

/-- One attempt of `EntityChanged`. -/
def attempt (entity : Entity) (b : β) : Except Exn Status × β :=
  match self.json.dump (toJson entity) with
  | .error what => (.error (.jsonException what), b)
  | .ok text =>
    match self.client.put ("/Entity/" ++ entity.id) text "application/json" b with
    | (.error _, b) => (.ok ⟨.unavailable, "received error while notifying"⟩, b)
    | (.ok response, b) => (.ok ⟨self.converter.fromHttp response.status, ""⟩, b)

/-- `HttpNotifier::EntityChanged`. -/
def entityChanged (entity : Entity) (b : β) : Except Exn Unit × β :=
  let r := self.retry.process (self.attempt entity) self.retry.maxRetryCount b
  (forwardErrors r.1, r.2)

/-- The notifier as the core sees it. -/
def notifier : EntityNotifier β where
  entityChanged := self.entityChanged

end HttpNotifier

end SapperBricks
