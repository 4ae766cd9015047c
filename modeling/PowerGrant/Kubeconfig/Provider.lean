import PowerGrant.Kubeconfig.Basic
import PowerGrant.Surroundings
import PowerGrant.Text.Blank
import PowerGrant.Text.Cut
import PowerGrant.Text.Timestamp

/-!
# Providers of tokens

A provider is another party that knows a user's token. The token may be among the provider's settings, as
long as it is good, or a program writes it.

* `Provider.token?`: the token that a provider gives, if it can be had.
-/

namespace PowerGrant.Provider

variable {m : Type → Type} [Monad m]

/-- The value of a setting. -/
def setting? (p : Provider) (name : String) : Option String :=
  p.settings.reverse.lookup name

/-- How long a token has to be good for, in seconds. -/
def margin : Int := 60

/-- What the settings say about the token that they hold. -/
inductive Held where
  | good (token : String)
  /-- There is none, or it is not good for long. -/
  | none
  /-- Until when it is good cannot be read. -/
  | unclear
  deriving DecidableEq, Repr, Inhabited

/-- The token that the settings hold. -/
def held (p : Provider) (now : Int) : Held :=
  match p.setting? "access-token", p.setting? "expiry" with
  | some token, some expiry =>
    match Text.Timestamp.seconds? expiry.toList with
    | some expiry => if now + margin < expiry then .good token else .none
    | none => .unclear
  | _, _ => .none

/-- What the program in the settings writes, without blanks at its end. A token within a larger answer is
not looked for. -/
def written? (s : Surroundings m) (p : Provider) : m (Option String) := do
  match p.setting? "cmd-path", p.setting? "token-key" with
  | some command, none =>
    let args := (p.setting? "cmd-args").elim [] fun args =>
      (Text.pieces ' ' args.toList).map String.ofList
    return (← s.run command args).map fun text => String.ofList (Text.trimEnd text.toList)
  | _, _ => return none

/-- The token that a provider gives, if it can be had. -/
def token? (s : Surroundings m) (p : Provider) : m (Option String) := do
  match p.name, p.setting? "id-token" with
  | "oidc", token => return token
  | "gcp", some token => return some token
  | "gcp", none =>
    match p.held s.now with
    | .good token => return some token
    | .unclear => return none
    | .none => written? s p
  | _, _ => return none

end PowerGrant.Provider
