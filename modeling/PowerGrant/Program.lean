import PowerGrant.CommandLine.Parse
import PowerGrant.Kubeconfig.Access
import PowerGrant.Log.Filter
import PowerGrant.Workload.Definition

/-!
# The program

What happens from the command line to a running daemon: the definition of the workload kind is printed,
or the daemon's log is opened and its way to the cluster found.

* `Program.start`: how far the program gets.
* `Program.Ending.code`: the exit code if that is its end.
-/

namespace PowerGrant

namespace Program

/-- The name of the program. -/
def name : String := "power-controller"

/-- The version of the program. -/
def version : String := "0.1.0"

/-- The variable that holds the log filter. -/
def filterVariable : String := "RUST_LOG"

/-- The variable that names the directory for log files. -/
def logVariable : String := "POWER_LOG_PATH"

/-- The variables that the program looks at. -/
def variableNames : List String :=
  Setting.all.filterMap Setting.variableName? ++
    [filterVariable, logVariable, Access.homeVariable] ++ Access.proxyVariables

/-- What surrounds the program, where it may also keep a log. -/
structure System (m : Type → Type) extends Surroundings m where
  /-- Opens a log file in a directory, which is made if need be; tells whether that succeeded. -/
  openLog : (directory : String) → m Bool

/-- How far the program got. -/
inductive Ending where
  /-- The command line cannot be followed. -/
  | usage (e : UsageError)
  /-- All is printed. -/
  | printed
  /-- There is no access to a cluster. -/
  | failed (e : AccessError)
  /-- The daemon is ready to run. -/
  | ready (o : DaemonOptions) (access : Access)
  deriving DecidableEq, Repr, Inhabited

namespace Ending

/-- The exit code if the program ends like this; a daemon ends well when it is stopped. -/
def code : Ending → Nat
  | .usage .displayHelp | .usage .displayVersion | .printed | .ready _ _ => 0
  | .usage _ => 2
  | .failed _ => 1

/-- The error that is reported if the program ends like this. -/
def error? : Ending → Option String
  | .failed e => some s!"Error: {e.message}"
  | _ => none

end Ending

/-- What came of opening a log file. -/
inductive LogFile where
  /-- None was asked for. -/
  | unwanted
  | opened (directory : String)
  | refused (directory : String)
  deriving DecidableEq, Repr, Inhabited

/-- What is reported about a log file, if it could not be opened. -/
def LogFile.notice? : LogFile → Option String
  | .refused directory => some s!"failed to open log directory {directory}"
  | _ => none

/-- What the program has done by the time that it ends or its daemon runs. -/
structure Start where
  ending : Ending
  /-- What it has printed. -/
  output : String := ""
  logFile : LogFile := .unwanted
  /-- The log lines that passed the filter. -/
  lines : List Log.Line := []
  deriving DecidableEq, Repr, Inhabited

/-- The log lines of a start, whatever comes of it. -/
def startLines : List Log.Line :=
  [⟨.info, "power_controller", s!"Starting power pod controller {version}"⟩,
    ⟨.info, "power_controller::app::builder", "Building application components..."⟩]

variable {m : Type → Type} [Monad m]

/-- Opens the log file that is asked for. -/
def openLog (system : System m) : m LogFile :=
  match system.env logVariable with
  | none => return .unwanted
  | some directory => do
    return if ← system.openLog directory then .opened directory else .refused directory

/-- Starts the daemon. -/
def startDaemon (system : System m) (o : DaemonOptions) : m Start := do
  let logFile ← openLog system
  let filter := Log.Filter.ofText ((system.env filterVariable).getD "")
  let lines := startLines.filter filter.passes
  match ← Access.find system.toSurroundings o.kubeconfig with
  | .ok access => return { ending := .ready o access, logFile, lines }
  | .error e => return { ending := .failed e, logFile, lines }

/-- Starts the program. -/
def start (system : System m) (args : List String) : m Start :=
  match Command.ofArguments system.env args with
  | .ok (.daemon o) => startDaemon system o
  | .ok .definition => return { ending := .printed, output := Workload.Definition.document }
  | .error .displayVersion =>
    return { ending := .usage .displayVersion, output := s!"{name} {version}\n" }
  | .error e => return { ending := .usage e }

end Program

end PowerGrant
