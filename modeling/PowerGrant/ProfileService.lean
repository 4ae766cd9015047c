import PowerGrant.Http
import PowerGrant.Profile
import PowerGrant.Workload.Store

/-!
# Profile services

Every node runs a service that lists the power profiles it knows. A profile is looked up by its name
in that list, of which the first profile with the name counts.
-/

namespace PowerGrant.ProfileService

/-- The path of the list of profiles. -/
def listPath : String := "/power_profiles"

/-- The address of the list of profiles; slashes at the end of the service's address do not count. -/
def listUrl (address : String) : String :=
  String.ofList (address.toList.reverse.dropWhile (· = '/')).reverse ++ listPath

/-- A failed request as a failed call. -/
def failed {α : Type} (url reason : String) : Answer α :=
  .error (.unavailable s!"AppQoS request to {url} failed: {reason}")

/-- The profile `name` among those that a response lists. -/
def find (name url : String) : Option Response → Answer (Option Profile)
  | none => failed url ""
  | some r =>
    if !r.isFinal then failed url ""
    else if 200 ≤ r.status ∧ r.status < 300 then
      match r.content.bind (Json.listOf? Profile.ofJson?) with
      | some profiles => .ok (profiles.find? fun p => p.name = some name)
      | none => failed url "invalid body"
    else .error (.unavailable s!"AppQoS at {url} answered {r.status}")

/-- Looks a profile up at an address, by a way to get what an address gives. -/
def lookUp {σ : Type} (fetch : String → Script σ (Option Response)) (name address : String) :
    Script σ (Answer (Option Profile)) :=
  (fetch (listUrl address)).bind fun r => .done (find name (listUrl address) r)

end PowerGrant.ProfileService
