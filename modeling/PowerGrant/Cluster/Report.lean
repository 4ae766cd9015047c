import PowerGrant.Json.Record

/-!
# Reports on requests

The API server may answer a deletion with a report: whether it succeeded, a code, a message, a reason and
details about their causes. Every part may be missing, but not have another form.

* `Cluster.isReport`: whether a JSON value is a report.
-/

namespace PowerGrant.Cluster

/-- Whether a value is a text. -/
def isText (j : Json) : Bool := j.text?.isSome

/-- Whether a value tells how a request ended: a word, or the word with nothing to add. -/
def isOutcome : Json → Bool
  | .null => true
  | .text word | .object [(word, .null)] => word = "Success" || word = "Failure"
  | _ => false

/-- Whether a value is a cause of a failure. -/
def isCause : Json → Bool :=
  Json.fieldsFit [("reason", isText), ("message", isText), ("field", isText)]

/-- Whether a value is a list of causes. -/
def areCauses : Json → Bool
  | .array causes => causes.all isCause
  | _ => false

/-- Whether a value is the details of a report, which may be left out. -/
def areDetails (j : Json) : Bool :=
  match j with
  | .null => true
  | j =>
    Json.fieldsFit [("name", isText), ("group", isText), ("kind", isText), ("uid", isText),
      ("causes", areCauses), ("retryAfterSeconds", fun n => n.uint32?.isSome)] j

/-- Whether a JSON value is a report on a request. -/
def isReport : Json → Bool :=
  Json.fieldsFit [("status", isOutcome), ("code", fun c => c.nat?.any (· < UInt16.size)),
    ("message", isText), ("reason", isText), ("details", areDetails)]

end PowerGrant.Cluster
