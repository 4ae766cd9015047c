import PowerGrant.Identity.Basic
import PowerGrant.Kubeconfig.ProgramAnswer
import PowerGrant.Kubeconfig.Provider

/-!
# Credentials

How a user is known to a server: by a name and a password, by a token, which may lie in a file or be had
from another party, or by an identity that a program gives. A user may show an identity in any case, and
act as somebody else.

* `Credentials.ofUser?`: the credentials of a user, if they can be had.
* `canShowIdentity`, `canAct`: whether the rest of what is said about a user can be used.
-/

namespace PowerGrant

/-- How a user is known to a server. -/
inductive Credentials where
  | none
  | password (name password : String)
  | token (token : String)
  /-- The key and the certificate of an identity. -/
  | identity (key certificate : String)
  deriving DecidableEq, Repr, Inhabited

variable {m : Type → Type} [Monad m]

namespace Source

/-- The path of a file that lies beside the file `path`, unless it starts at the root. -/
def beside (path file : String) : String :=
  if file.startsWith "/" then file
  else String.ofList (path.toList.reverse.dropWhile (· ≠ '/')).reverse ++ file

/-- The bytes as characters. -/
def asChars (bs : List UInt8) : List Char := bs.map fun b => Char.ofNat b.toNat

/-- What a source holds, byte by byte; the outer result tells whether something is given, the inner one
whether it can be had. Data come before a file. -/
def content (s : Surroundings m) (path : String) (source : Source) :
    m (Option (Option (List Char))) := do
  match source.data, source.file with
  | some data, _ => return some ((Text.base64Decode? data.toList).map asChars)
  | none, some file =>
    return some ((← s.read (beside path file)).map fun text => asChars text.toUTF8.toList)
  | none, none => return none

end Source

/-- The credentials that a program answers with: an identity counts more than a token, and until when a
token is good has to be a time. -/
def ProgramAnswer.credentials? (a : ProgramAnswer) : Option Credentials :=
  match a.certificate, a.key with
  | some certificate, some key => some (.identity key certificate)
  | _, _ =>
    if a.expiry.all fun expiry => (Text.Timestamp.seconds? expiry.toList).isSome then
      some (a.token.elim .none .token)
    else none

/-- The credentials that a program gives, if it gives some. -/
def ProgramEntry.credentials? (s : Surroundings m) (p : ProgramEntry) : m (Option Credentials) := do
  match p.command with
  | some command =>
    return ((← s.run command p.args).bind ProgramAnswer.ofText?).bind ProgramAnswer.credentials?
  | none => return none

/-- Whether a text can stand in the head of a request. -/
def fitsHeader (s : String) : Bool :=
  s.toList.all fun c => c = '\t' || (0x20 ≤ c.toNat && c.toNat ≠ 0x7F)

namespace Credentials

/-- Whether credentials can stand in the head of a request, if they have to; a password is written in
base 64 there. -/
def fitHeader : Credentials → Bool
  | .token text => fitsHeader text
  | .password _ _ | .identity _ _ | .none => true

/-- The credentials of a user, if they can be had: a provider comes first, then a name with its password,
then a token, then a file that holds one, and then a program. -/
def ofUser? (s : Surroundings m) (path : String) (u : UserEntry) : m (Option Credentials) := do
  match u.provider, u.name, u.password, u.token, u.tokenFile with
  | some provider, _, _, _, _ => return (← provider.token? s).map .token
  | _, some name, some secret, _, _ => return some (.password name secret)
  | _, _, _, some given, _ => return some (.token given)
  | _, _, _, _, some file => return (← s.read (Source.beside path file)).map .token
  | _, _, _, _, _ => u.program.elim (return some .none) (·.credentials? s)

end Credentials

/-- A text that ends with a line feed, unless it is empty. -/
def endedLine (cs : List Char) : List Char :=
  if cs.isEmpty || cs.getLast? = some '\n' then cs else cs ++ ['\n']

/-- Whether a user with these credentials can show an identity, if one is given with both of its parts. -/
def canShowIdentity (s : Surroundings m) (path : String) (u : UserEntry) (c : Credentials) : m Bool := do
  match c with
  | .identity key certificate => return Identity.isUsable s!"{key}\n{certificate}\n".toList
  | _ =>
    match (← u.certificate.content s path).join, (← u.key.content s path).join with
    | some certificate, some key => return Identity.isUsable (endedLine key ++ endedLine certificate)
    | _, _ => return true

/-- Whether a user can act as whom it is said to act as. -/
def canAct (u : UserEntry) : Bool := u.actsAs.all fitsHeader && u.groups.all fitsHeader

end PowerGrant
