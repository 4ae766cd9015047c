import PowerGrant.Json.Reader
import PowerGrant.Json.Record
import PowerGrant.Text.Base64

/-!
# Answers of programs that are asked for credentials

Such a program writes an object that tells how it was asked and what the credentials are: a token, until
when it is good, and a certificate with its key.

* `ProgramAnswer.ofText?`: the answer that a text writes.
-/

namespace PowerGrant

/-- What a program answers. -/
structure ProgramAnswer where
  token : Option String
  /-- Until when the token is good. -/
  expiry : Option String
  certificate : Option String
  key : Option String
  deriving DecidableEq, Repr, Inhabited

namespace ProgramAnswer

open Json

/-- Whether a value is a text, or nothing. -/
def isText (j : Json) : Bool := j matches .null | .text _

/-- Whether a value is a truth value, or nothing. -/
def isTruth (j : Json) : Bool := j matches .null | .bool _

/-- Whether a value is bytes in base 64, or nothing. -/
def isBytes : Json → Bool
  | .null => true
  | .text s => (Text.base64Decode? s.toList).isSome
  | _ => false

/-- Whether a value tells what a program may know about a cluster. -/
def isCluster (j : Json) : Bool :=
  j matches .null || fieldsFit [("server", isText), ("insecure-skip-tls-verify", isTruth),
    ("certificate-authority-data", isBytes), ("proxy-url", isText), ("tls-server-name", isText),
    ("config", fun _ => true)] j

/-- Whether a value tells how the program was asked. -/
def isQuestion (j : Json) : Bool :=
  j matches .null || fieldsFit [("interactive", isTruth), ("cluster", isCluster)] j

/-- The text of a field that may be missing. -/
def textField? : Option Json → Option (Option String) := orDefault? none (optional? text?)

/-- The credentials that an object gives. -/
def ofJson? (j : Json) : Option ProgramAnswer := do
  match ← slots ["expirationTimestamp", "token", "clientCertificateData", "clientKeyData"] j with
  | [expiry, token, certificate, key] =>
    return {
      token := ← textField? token
      expiry := ← textField? expiry
      certificate := ← textField? certificate
      key := ← textField? key }
  | _ => none

/-- The answer that a text writes, if it gives credentials. -/
def ofText? (text : String) : Option ProgramAnswer := do
  match ← slots ["kind", "apiVersion", "spec", "status"] (← Json.ofText? text) with
  | [kind, version, question, credentials] =>
    if kind.all isText && version.all isText && question.all isQuestion then
      (← orDefault? none (optional? ofJson?) credentials)
    else none
  | _ => none

example : (ofText? "\x7b\"status\":\x7b\"token\":\"x\"\x7d\x7d\n").bind ProgramAnswer.token = some "x" ∧
    ofText? "\x7b\x7d" = none := by decide +kernel

end ProgramAnswer

end PowerGrant
