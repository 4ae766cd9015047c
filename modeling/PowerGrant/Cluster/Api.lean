import PowerGrant.Http
import PowerGrant.Json.Record
import PowerGrant.Workload.Store

/-!
# The cluster's programming interface

How an answer of the API server is understood. An error status comes with an object that gives a code
and a reason of its own, which count instead of the status; if the object cannot be read the status
counts, and there is no reason.

* `ApiError`: how a request fails.
* `fetch?`, `store`: reading an object that may be absent, and writing one.
-/

namespace PowerGrant

/-- How a request to the API server fails. -/
inductive ApiError where
  /-- The server refuses, with a code and a reason. -/
  | refused (code : Nat) (reason : String)
  /-- The request was not sent, there was no answer, or it was not understood. -/
  | failed
  deriving DecidableEq, Repr, Inhabited

namespace ApiError

/-- The code of a refusal. -/
def code? : ApiError → Option Nat
  | .refused code _ => some code
  | .failed => none

/-- Whether the server says that the object does not exist. -/
def isAbsent : ApiError → Bool
  | .refused _ reason => reason = "NotFound"
  | .failed => false

end ApiError

/-- A way to the API server: sends a request and gives the response, if one came. -/
abbrev Api (σ : Type) := Request → Script σ (Option Response)

namespace Api

variable {σ α : Type}

/-- The error that an object for a refusal describes. -/
def errorOf? (j : Json) : Option ApiError :=
  match Json.slots ["status", "message", "reason", "code"] j with
  | some [status, message, reason, code] => do
    let _ ← Json.required? Json.text? status
    let _ ← Json.orDefault? "" Json.text? message
    let reason ← Json.orDefault? "" Json.text? reason
    let code ← Json.required? Json.nat? code
    if code < UInt16.size then some (.refused code reason) else none
  | _ => none

/-- What a response gives: the value that `read?` finds in its body, or an error. -/
def understand (read? : Json → Option α) : Option Response → Except ApiError α
  | none => .error .failed
  | some r =>
    if 400 ≤ r.status ∧ r.status < 600 then
      .error ((r.body.bind errorOf?).getD (.refused r.status ""))
    else
      match r.body.bind read? with
      | some a => .ok a
      | none => .error .failed

/-- Sends a request, if its path can be sent, and understands the response. -/
def call (api : Api σ) (request : Request) (read? : Json → Option α) :
    Script σ (Except ApiError α) :=
  match Request.sendable request.path with
  | some path => (api { request with path }).bind fun r => .done (understand read? r)
  | none => .done (.error .failed)

/-- The path of a named object. An empty name is sent like any other. -/
def objectPath (collection name : String) : String := s!"{collection}/{name}"

/-- Reads a named object, which may be absent. -/
def fetch? (api : Api σ) (collection name : String) (read? : Json → Option α) :
    Script σ (Except ApiError (Option α)) :=
  (api.call ⟨.get, objectPath collection name, none⟩ read?).bind fun
    | .ok a => .done (.ok (some a))
    | .error e => .done (if e.isAbsent then .ok none else .error e)

end Api

/-- A failed request as a failed call. -/
def requestFailed (what : String) : ServiceError :=
  .unavailable s!"Kubernetes API request failed: {what}: "

end PowerGrant
