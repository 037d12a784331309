import ApiScaffold.Client.Request

/-!
# Exchanges

A request goes out once, and one response comes back.

* `Request.line`, `Request.sentHeaders`: what goes out.
* `receivedBody`: the body that comes back; some responses have none, whatever follows them.
* `Request.exchange`: the end of an exchange under the options of a call.
-/

namespace ApiScaffold.Client

open Web (Headers)

/-- The name that requests are made under. -/
def userAgent : String := s!"swaggen/{generatorVersion}"

namespace Request

/-- The first line of a request. -/
def line (r : Request) : String := s!"{r.method} {r.url.target} HTTP/1.1"

/-- The headers that go out: those of the request, and the name that it is made under unless
they give another. -/
def sentHeaders (r : Request) : Headers :=
  if (r.headers.get? "user-agent").isSome then r.headers
  else r.headers.insert "user-agent" userAgent

end Request

/-- The body of a response to a method: none for `HEAD`, for no content and for what is not
modified. -/
def receivedBody (method : String) (status : Nat) (body : List UInt8) : List UInt8 :=
  if method = "HEAD" || status = 204 || status = 304 then [] else body

/-- How an exchange ends that starts at a moment and is answered after a time: the caller may
have given it up, and the deadline may pass before the answer. -/
def Request.exchange (r : Request) (o : CallOptions) (now delay : Nat) (answer : Response) :
    Outcome :=
  if o.isCancelled now then .error .cancelled
  else if o.deadline.any (· < now + delay) then .error .deadlineExceeded
  else .ok { answer with body := receivedBody r.method answer.status answer.body }

end ApiScaffold.Client
