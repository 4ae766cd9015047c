import PowerGrant.Ascending
import PowerGrant.Cpu.Quantity
import PowerGrant.Pod.Basic
import PowerGrant.Text.Cut
import PowerGrant.Text.Quoted

/-!
# Requests of pods

A container holds CPUs of its own if its pod is of the class `Guaranteed` and it requests a whole
number of CPUs. It asks for a power profile by requesting a resource that is named for one.

* `Container.profile`: the profile that a container asks for, of which it may name one.
* `checkPolicy`: whether the profiles of a pod's containers may stand side by side.
-/

namespace PowerGrant

/-- Begins the name of every resource that stands for a power profile. -/
def profileResource : String := "power.example.com/"

/-- How many profiles one pod may ask for. -/
inductive ProfilePolicy where
  /-- All containers that ask for a profile ask for the same one. -/
  | onePerPod
  /-- Each container asks for a profile of its own. -/
  | perContainer
  deriving DecidableEq, Repr, Inhabited

/-- Why what a pod requests is refused, whatever the cluster says. -/
inductive RequestError where
  | severalProfilesInContainer (container : String)
  /-- The profiles rise. -/
  | severalProfilesInPod (profiles : List String)
  deriving DecidableEq, Repr, Inhabited

/-- The wording of a refused request. -/
def RequestError.message : RequestError → String
  | .severalProfilesInContainer container =>
    s!"container {container} requests more than one power profile"
  | .severalProfilesInPod profiles =>
    s!"pod requests more than one power profile: {Text.quotedList profiles}"

namespace Container

/-- The profile that a resource stands for. -/
def profileOfResource? (resource : String) : Option String :=
  (Text.after? profileResource.toList resource.toList).map String.ofList

/-- The profiles that the container asks for, rising. -/
def profiles (c : Container) : List String :=
  c.requests.keys.filterMap profileOfResource?

/-- The profile that the container asks for, if any; it may not ask for two. -/
def profile (c : Container) : Except RequestError (Option String) :=
  match c.profiles with
  | [] => .ok none
  | [p] => .ok (some p)
  | _ => .error (.severalProfilesInContainer c.name)

/-- Whether the container requests a whole number of CPUs, and at least one. -/
def requestsWholeCpus (c : Container) : Bool :=
  match (c.requests.find? "cpu").bind wholeCpus with
  | some n => 0 < n
  | none => false

end Container

/-- Whether a pod may ask for these profiles. -/
def checkPolicy (policy : ProfilePolicy) (profiles : List String) : Except RequestError Unit :=
  let distinct := ascending profiles
  if policy = .perContainer ∨ distinct.length ≤ 1 then .ok ()
  else .error (.severalProfilesInPod distinct)

namespace Pod

/-- The containers that hold CPUs of their own, those that run first in front. -/
def pinnedContainers (p : Pod) : List Container :=
  if p.qosClass = some "Guaranteed" then
    (p.initContainers ++ p.containers).filter Container.requestsWholeCpus
  else []

/-- A runtime's id without the scheme in front of it. -/
def withoutScheme (id : String) : String :=
  match Text.cutText? "://".toList id.toList with
  | some (_, rest) => String.ofList rest
  | none => id

/-- The runtime's id of a container, empty if none is reported. -/
def containerId (p : Pod) (container : String) : String :=
  match (p.initStatuses ++ p.statuses).find? fun s => s.name = container with
  | some ⟨_, some id⟩ => withoutScheme id
  | _ => ""

/-- The containers among `cs` that ask for a profile, with the profile. -/
def requestsOf : List Container → Except RequestError (List (Container × String))
  | [] => .ok []
  | c :: cs => do
    let profile ← c.profile
    let rest ← requestsOf cs
    return match profile with
      | some p => (c, p) :: rest
      | none => rest

end Pod

end PowerGrant
