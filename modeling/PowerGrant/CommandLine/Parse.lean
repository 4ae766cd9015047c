import PowerGrant.CommandLine.Setting
import PowerGrant.Text.Cut

/-!
# Reading a command line

A command line names a command and, for the daemon, options: `--name value`, `--name=value` and
switches. A value that stands by itself is looked at only when the next option begins or the line ends,
so an argument that cannot be placed at all is reported before it.

* `Command.ofArguments`: the command of a command line, under an environment.
-/

namespace PowerGrant

/-- What the program is asked to do. -/
inductive Command where
  | daemon (options : DaemonOptions)
  /-- Prints the definition of the workload kind. -/
  | definition
  deriving DecidableEq, Repr, Inhabited

namespace CommandLine

/-- What an argument looks like. -/
inductive Token where
  /-- Two dashes alone: no options follow. -/
  | terminator
  /-- An option by its long name, with the value after its equals sign. -/
  | long (name : String) (value : Option String)
  /-- An option by a letter. -/
  | short (letter : Char)
  | plain (text : String)
  deriving DecidableEq, Repr, Inhabited

/-- What an argument looks like. -/
def Token.of (s : String) : Token :=
  match s.toList with
  | ['-', '-'] => .terminator
  | '-' :: '-' :: name =>
    match Text.cut? '=' name with
    | some (name, value) => .long (String.ofList name) (some (String.ofList value))
    | none => .long (String.ofList name) none
  | '-' :: letter :: _ => .short letter
  | _ => .plain s

/-- How far the options of the daemon have been read. -/
structure Progress where
  /-- The values taken over. -/
  given : List (Setting × String) := []
  /-- The last option, whose value is still to be looked at or to come. -/
  pending : Option (Setting × Option String) := none
  deriving DecidableEq, Repr, Inhabited

namespace Progress

/-- The value given for a setting. -/
def value? (p : Progress) (s : Setting) : Option String := p.given.lookup s

/-- Takes over a value, unless there is one already. -/
def give (p : Progress) (s : Setting) (value : String) : Except UsageError Progress :=
  if (p.value? s).isSome then .error .repeatedOption
  else
    match s.kind.fault value with
    | some e => .error e
    | none => .ok { p with given := (s, value) :: p.given }

/-- Takes over the value of the last option. -/
def settle (p : Progress) : Except UsageError Progress :=
  match p.pending with
  | none => .ok p
  | some (_, none) => .error .invalidValue
  | some (s, some value) => give { p with pending := none } s value

/-- Goes on with an option of a long name. -/
def long (p : Progress) (name : String) (value : Option String) : Except UsageError Progress :=
  if name = "help" then
    if value.isSome then .error .valueOnSwitch else p.settle.bind fun _ => .error .displayHelp
  else
    match Setting.ofOption? name with
    | none => .error .unknownArgument
    | some s =>
      match s.kind, value with
      | .switch, some _ => .error .valueOnSwitch
      | .switch, none => do (← p.settle).give s "true"
      | _, some value => do (← p.settle).give s value
      | _, none => do return { ← p.settle with pending := some (s, none) }

/-- Goes on with an argument; after the terminator there may be none. -/
def next (p : Progress) : Token → Except UsageError Progress
  | .terminator => .ok p
  | .long name value => p.long name value
  | .short letter =>
    if letter = 'h' then p.settle.bind fun _ => .error .displayHelp else .error .unknownArgument
  | .plain text =>
    match p.pending with
    | some (s, none) => .ok { p with pending := some (s, some text) }
    | _ => .error .unknownArgument

/-- Reads the arguments of the daemon. -/
def read (p : Progress) : List String → Except UsageError Progress
  | [] => p.settle
  | a :: rest =>
    match Token.of a with
    | .terminator => if rest.isEmpty then p.settle else .error .unknownArgument
    | token => do (← p.next token).read rest

/-- Takes over the environment's value of a setting for which none was given. -/
def consult (p : Progress) (env : String → Option String) (s : Setting) :
    Except UsageError Progress :=
  match p.value? s, s.variableName?.bind env with
  | none, some value => p.give s value
  | _, _ => .ok p

end Progress

/-- The options of the daemon. -/
def daemonOptions (env : String → Option String) (args : List String) :
    Except UsageError DaemonOptions := do
  let given ← Progress.read {} args
  let given ← Setting.all.foldlM (fun p s => p.consult env s) given
  return DaemonOptions.ofGiven given.value?

/-- How a command without options takes its arguments: there may be none. -/
def noOptions : List String → Except UsageError Unit
  | [] => .ok ()
  | a :: rest =>
    match Token.of a with
    | .terminator => if rest.isEmpty then .ok () else .error .unknownArgument
    | .long "help" none => .error .displayHelp
    | .long "help" (some _) => .error .valueOnSwitch
    | .short 'h' => .error .displayHelp
    | _ => .error .unknownArgument

/-- The names of the commands, with the one that shows the help. -/
def commandNames : List String := ["daemon", "crd", "help"]

/-- What comes of asking for help on a command. -/
def helpOn : List String → UsageError
  | [] => .displayHelp
  | [name] => if commandNames.contains name then .displayHelp else .invalidCommand
  | _ => .invalidCommand

end CommandLine

open CommandLine in
/-- The command of a command line under an environment. -/
def Command.ofArguments (env : String → Option String) : List String → Except UsageError Command
  | [] => .error .missingCommand
  | a :: rest =>
    match Token.of a with
    | .plain "daemon" => (daemonOptions env rest).map .daemon
    | .plain "crd" => (noOptions rest).map fun _ => .definition
    | .plain "help" => .error (helpOn rest)
    | .plain _ => .error .invalidCommand
    | .terminator =>
      match rest with
      | [] => .error .missingCommand
      | name :: _ =>
        .error (if commandNames.contains name then .unknownArgument else .invalidCommand)
    | .long "help" none | .short 'h' => .error .displayHelp
    | .long "version" none | .short 'V' => .error .displayVersion
    | .long "help" _ | .long "version" _ => .error .valueOnSwitch
    | _ => .error .unknownArgument

end PowerGrant
