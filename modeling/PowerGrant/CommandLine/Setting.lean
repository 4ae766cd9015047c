import PowerGrant.Reconcile.Config
import PowerGrant.Text.Numeral

/-!
# Settings of the daemon

What can be set on the command line or in the environment, what a value has to look like and what
holds if nothing is set. A value given on the command line beats one from the environment.

* `Setting`: the settings, with the name of the option and the variable for each.
* `DaemonOptions.ofGiven`: the options of the daemon, from the values that were given.
-/

namespace PowerGrant

/-- Why a command line does not lead to a run of the program. -/
inductive UsageError where
  | displayHelp
  | displayVersion
  /-- No command is given: the help is shown. -/
  | missingCommand
  | invalidCommand
  | unknownArgument
  /-- A value is missing, empty where it may not be, or no truth value. -/
  | invalidValue
  /-- A number is none, or out of range. -/
  | invalidNumber
  /-- An option is given twice. -/
  | repeatedOption
  /-- A switch is given a value. -/
  | valueOnSwitch
  deriving DecidableEq, Repr, Inhabited

/-- Something that can be set. -/
inductive Setting where
  | kubeconfig
  | workloadNamespace
  | watchNamespace
  | nodeName
  | appqosScheme
  | appqosPort
  | appqosInsecure
  | kubeletSocketPath
  | callTimeoutMs
  | conflictRetries
  | allowPerContainerProfiles
  deriving DecidableEq, Repr, Inhabited

/-- What the values of a setting look like. -/
inductive ValueKind where
  | switch
  | text
  /-- A text that is not empty. -/
  | path
  /-- A number below a limit, which may be written with a sign. -/
  | signed (limit : Nat)
  /-- A number below a limit. -/
  | unsigned (limit : Nat)
  deriving DecidableEq, Repr, Inhabited

namespace Setting

/-- All settings. -/
def all : List Setting :=
  [.kubeconfig, .workloadNamespace, .watchNamespace, .nodeName, .appqosScheme, .appqosPort,
    .appqosInsecure, .kubeletSocketPath, .callTimeoutMs, .conflictRetries,
    .allowPerContainerProfiles]

/-- The name of the option, without its dashes. -/
def option : Setting → String
  | .kubeconfig => "kubeconfig"
  | .workloadNamespace => "workload-namespace"
  | .watchNamespace => "watch-namespace"
  | .nodeName => "node-name"
  | .appqosScheme => "appqos-scheme"
  | .appqosPort => "appqos-port"
  | .appqosInsecure => "appqos-insecure"
  | .kubeletSocketPath => "kubelet-socket-path"
  | .callTimeoutMs => "call-timeout-ms"
  | .conflictRetries => "conflict-retries"
  | .allowPerContainerProfiles => "allow-per-container-profiles"

/-- The variable of the environment. -/
def variableName? : Setting → Option String
  | .kubeconfig => some "KUBECONFIG"
  | .workloadNamespace => some "POWER_WORKLOAD_NAMESPACE"
  | .nodeName => some "NODE_NAME"
  | .appqosInsecure => some "APPQOS_INSECURE"
  | .allowPerContainerProfiles => some "POWER_ALLOW_PER_CONTAINER_PROFILES"
  | _ => none

/-- What its values look like. -/
def kind : Setting → ValueKind
  | .kubeconfig | .kubeletSocketPath => .path
  | .workloadNamespace | .watchNamespace | .nodeName | .appqosScheme => .text
  | .appqosInsecure | .allowPerContainerProfiles => .switch
  | .appqosPort => .signed UInt16.size
  | .conflictRetries => .signed UInt32.size
  | .callTimeoutMs => .unsigned UInt64.size

/-- The setting of an option. -/
def ofOption? (name : String) : Option Setting := all.find? fun s => s.option = name

end Setting

/-- The number that a text writes, if it is one below `limit`. -/
def signedBelow (limit : Nat) (s : String) : Option Nat :=
  match Text.readInt64 s.toList with
  | .ok (.ofNat n) => if n < limit then some n else none
  | _ => none

/-- The number that a text writes without a minus, if it is one below `limit`. -/
def unsignedBelow (limit : Nat) (s : String) : Option Nat :=
  (Text.readBelow limit s.toList).toOption

/-- What is wrong with a value, if anything. -/
def ValueKind.fault (kind : ValueKind) (value : String) : Option UsageError :=
  match kind with
  | .text => none
  | .path => if value = "" then some .invalidValue else none
  | .switch => if value = "true" ∨ value = "false" then none else some .invalidValue
  | .signed limit => if (signedBelow limit value).isSome then none else some .invalidNumber
  | .unsigned limit => if (unsignedBelow limit value).isSome then none else some .invalidNumber

/-- The options of the daemon. -/
structure DaemonOptions where
  kubeconfig : Option String := none
  workloadNamespace : String := "power-manager"
  /-- The namespace whose pods are watched; all, if none is given. -/
  watchNamespace : Option String := none
  /-- The node whose pods are watched; all, if none is given. -/
  nodeName : Option String := none
  appqosScheme : String := "https"
  appqosPort : UInt16 := 5000
  appqosInsecure : Bool := false
  kubeletSocketPath : String := "/var/lib/kubelet/pod-resources/kubelet.sock"
  /-- In milliseconds. -/
  callTimeout : Nat := 5000
  conflictRetries : Nat := 5
  allowPerContainerProfiles : Bool := false
  deriving DecidableEq, Repr, Inhabited

namespace DaemonOptions

/-- The options for values that were given and are in order. -/
def ofGiven (given : Setting → Option String) : DaemonOptions :=
  let default : DaemonOptions := {}
  { kubeconfig := given .kubeconfig
    workloadNamespace := (given .workloadNamespace).getD default.workloadNamespace
    watchNamespace := given .watchNamespace
    nodeName := given .nodeName
    appqosScheme := (given .appqosScheme).getD default.appqosScheme
    appqosPort := ((given .appqosPort).bind (signedBelow UInt16.size)).elim default.appqosPort .ofNat
    appqosInsecure := given .appqosInsecure = some "true"
    kubeletSocketPath := (given .kubeletSocketPath).getD default.kubeletSocketPath
    callTimeout :=
      ((given .callTimeoutMs).bind (unsignedBelow UInt64.size)).getD default.callTimeout
    conflictRetries :=
      ((given .conflictRetries).bind (signedBelow UInt32.size)).getD default.conflictRetries
    allowPerContainerProfiles := given .allowPerContainerProfiles = some "true" }

/-- The settings of the reconciles. -/
def reconcileConfig (o : DaemonOptions) : ReconcileConfig :=
  let default : ReconcileConfig := {}
  { workloadNamespace := o.workloadNamespace
    policy := if o.allowPerContainerProfiles then .perContainer else .onePerPod
    callTimeout := o.callTimeout
    retry := { default.retry with attempts := o.conflictRetries } }

end DaemonOptions

end PowerGrant
