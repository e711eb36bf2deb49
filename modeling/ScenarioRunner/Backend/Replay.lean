import ScenarioRunner.Backend.Http

/-!
# Replayed servers

A server that answers requests from lists of prepared replies, and one that answers none.

* `ReplayServer` holds the replies that are left and the requests that came in.
* `ReplayServer.transport` answers a submission with the next reply for submissions, and any other
  request with the next reply for streams.
* `Transport.silent` answers nothing.
-/

namespace ScenarioRunner

/-- The network on which nothing listens. -/
def Transport.silent {σ : Type} : Transport σ :=
  fun _ s => (none, s)

/-- A server with prepared replies. -/
structure ReplayServer where
  submissions : List HttpReply
  streams : List HttpReply
  /-- The requests that came in, the first one in front. -/
  requests : List HttpRequest
  isUp : Bool

namespace ReplayServer

/-- A server that has answered no request. -/
def ofReplies (submissions streams : List HttpReply) : ReplayServer :=
  ⟨submissions, streams, [], true⟩

/-- The server does not listen any more. -/
def stop (s : ReplayServer) : ReplayServer :=
  { s with isUp := false }

/-- The reply of a server without prepared replies. -/
def exhausted : HttpReply :=
  ⟨404, [Text.Utf8.encode "no more"], false⟩

/-- A reply as it arrives: some codes come without a body. -/
def delivered (r : HttpReply) : HttpReply :=
  if StatusCode.isBodiless r.code then { r with chunks := [], isCut := false } else r

def transport : Transport ReplayServer := fun request s =>
  if !s.isUp then (none, s)
  else
    let s := { s with requests := s.requests ++ [request] }
    match request.method with
    | .post => (some (delivered (s.submissions.headD exhausted)),
        { s with submissions := s.submissions.drop 1 })
    | .get => (some (delivered (s.streams.headD exhausted)), { s with streams := s.streams.drop 1 })

end ReplayServer

end ScenarioRunner
