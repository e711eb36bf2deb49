import ScenarioRunner.Backend.Basic
import ScenarioRunner.Backend.EventStream
import ScenarioRunner.Backend.EnvironmentFolder
import ScenarioRunner.Backend.StatusCode
import ScenarioRunner.Backend.Url
import ScenarioRunner.Text.Blank

/-!
# Executions on a server

A backend that submits scenarios to a server and reads its event streams.

* `HttpRequest` and `HttpReply` are what is sent and what comes back, and `Transport` carries them.
* `RemoteService` is a server with a directory of environments, and `RemoteService.backend` the
  backend.
* `Snapshot.ofEvent` reads an item of a stream from an event, and `HttpReply.items` all items of a
  reply.

`POST {base}/api/v1/executions` submits a scenario and answers with the number of the execution.
`GET {base}/api/v1/executions/{number}/reports` opens the stream of its snapshots.
-/

namespace ScenarioRunner

/-- What a request asks for. -/
inductive HttpMethod where
  | get
  | post
deriving DecidableEq, Repr

def HttpMethod.name : HttpMethod → String
  | get => "GET"
  | post => "POST"

/-- A request to a server. -/
structure HttpRequest where
  method : HttpMethod
  url : Url
  /-- The kind of answer that is accepted. -/
  accept : String
  body : Option Json

/-- The answer of a server. -/
structure HttpReply where
  code : Nat
  /-- The bytes of the body as they arrive. -/
  chunks : List (List UInt8)
  /-- The connection breaks before the body is complete. -/
  isCut : Bool

/-- Carries a request over a network with state `σ`; there is no answer if nothing listens at the
address. -/
abbrev Transport (σ : Type) := HttpRequest → σ → Option HttpReply × σ

namespace HttpRequest

/-- The name under which requests are sent. -/
def userAgent : String := "chutney-engine/0.1.0"

def contentType : String := "application/json"

end HttpRequest

namespace HttpReply

def body? (r : HttpReply) : Option (List UInt8) :=
  if r.isCut then none else some r.chunks.flatten

/-- The wording for a body that cannot be read. -/
def unreadable : String := "error decoding response body"

/-- The text of a body; a mark of byte order at its start does not count. -/
def text (r : HttpReply) : String :=
  match Text.Utf8.decodeLossy (r.body?.getD []) with
  | '\uFEFF' :: rest => String.ofList rest
  | cs => String.ofList cs

end HttpReply

namespace Snapshot

/-- Reads an item of a stream from an event: an event of the type `error` carries what broke, and
every other one a snapshot. -/
def ofEvent (e : ServerEvent) : Item :=
  if e.name = some "error" then .error (.stream e.data)
  else
    match Document.ofText ExecutionReport.decode e.data with
    | .ok report => .ok report
    | .error cause => .error (.stream ("invalid report snapshot: " ++ cause.message))

end Snapshot

/-- The items in the body of a reply.  If the body breaks off, the event that is not complete is lost
and the last item says so. -/
def HttpReply.items (r : HttpReply) : List Item :=
  let (events, decoder) := EventDecoder.empty.pushAll r.chunks
  events.map Snapshot.ofEvent ++
    if r.isCut then [.error (.stream unreadable)]
    else (decoder.finish.1.map Snapshot.ofEvent).toList

/-- A server, with the directory of the environments for its scenarios. -/
structure RemoteService where
  /-- The address of the server as it is given. -/
  address : String
  environments : EnvironmentFolder

namespace RemoteService

/-- The address without slashes at its end. -/
def base (service : RemoteService) : String :=
  String.ofList (service.address.toList.reverse.dropWhile (· == '/')).reverse

def resource (service : RemoteService) (path : String) : String :=
  service.base ++ "/api/v1/" ++ path

/-- Sends a request to an address: the reply, or the wording of what is wrong. -/
def send {σ : Type} (transport : Transport σ) (method : HttpMethod) (address accept : String)
    (body : Option Json) (s : σ) : Except String HttpReply × σ :=
  match Url.read address with
  | .error .malformed => (.error "builder error", s)
  | .error (.unsuitable shown) => (.error ("builder error for url (" ++ shown ++ ")"), s)
  | .ok url =>
    match transport ⟨method, url, accept, body⟩ s with
    | (some reply, s) => (.ok reply, s)
    | (none, s) => (.error ("error sending request for url (" ++ url.text ++ ")"), s)

def submission (scenario : Scenario) (environment : Environment) (constants : Table String)
    (dataset : Option String) : Json :=
  .obj
    ([("scenario", scenario.encode), ("environment", environment.encode),
        ("constants", constants.toJson .str)] ++ Json.optional "dataset" dataset .str)

/-- The fields of the answer to a submission. -/
def accepted : Document.Decode.Record (Option ExecutionId) ExecutionId where
  name := "SubmitResponse"
  fields := [Document.Decode.required "executionId" Document.Decode.word fun x _ => some x]
  start := none
  finish := Document.Decode.present "executionId"

/-- Reads the number of the execution from the answer to a submission. -/
def executionId? (reply : HttpReply) : Option ExecutionId := do
  let bytes ← reply.body?
  let cs ← Text.Utf8.decode? bytes
  (Document.ofText accepted.decode (String.ofList cs)).toOption

/-- What a server says to a submission. -/
def readSubmission (reply : HttpReply) : Except Error ExecutionId :=
  if StatusCode.isSuccess reply.code then
    match executionId? reply with
    | some id => .ok id
    | none => .error (.submission ("invalid submission response: " ++ HttpReply.unreadable))
  else
    .error
      (.submission
        ("backend answered " ++ StatusCode.text reply.code ++ ": " ++ Text.trimmed reply.text))

/-- What a server says to the opening of the stream of an execution. -/
def readNotifications (id : ExecutionId) (reply : HttpReply) : Except Error (List Item) :=
  if StatusCode.isSuccess reply.code then .ok reply.items
  else
    .error
      (.stream
        ("report stream for execution " ++ toString id.toNat ++ " answered " ++
          StatusCode.text reply.code))

def submit {σ : Type} (service : RemoteService) (transport : Transport σ) (scenario : Scenario)
    (environment : Environment) (constants : Table String) (dataset : Option String) (s : σ) :
    Except Error ExecutionId × σ :=
  let address := service.resource "executions"
  let body := submission scenario environment constants dataset
  match send transport .post address "*/*" (some body) s with
  | (.error reason, s) => (.error (.submission (address ++ " unreachable: " ++ reason)), s)
  | (.ok reply, s) => (readSubmission reply, s)

/-- Opens the stream of an execution. -/
def notifications {σ : Type} (service : RemoteService) (transport : Transport σ)
    (id : ExecutionId) (s : σ) : Except Error (List Item) × σ :=
  let address := service.resource ("executions/" ++ toString id.toNat ++ "/reports")
  match send transport .get address "text/event-stream" none s with
  | (.error reason, s) => (.error (.stream (address ++ " unreachable: " ++ reason)), s)
  | (.ok reply, s) => (readNotifications id reply, s)

/-- The backend that submits scenarios to the server. -/
def backend {σ : Type} (service : RemoteService) (transport : Transport σ) : Backend σ where
  submit := service.submit transport
  notifications := service.notifications transport
  defaultEnvironment s := (service.environments.defaultName, s)
  environment name s := (service.environments.resolve name, s)

end RemoteService

end ScenarioRunner
