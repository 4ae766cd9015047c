import PowerGrant.Pod.Basic
import PowerGrant.Json.Record

/-!
# Rejection events

A pod whose request is refused is told so by an event about it, posted to the cluster in the pod's
namespace.
-/

namespace PowerGrant

/-- The name under which the controller reports. -/
def controllerName : String := "power-pod-controller"

/-- A refusal to report. -/
structure Rejection where
  /-- The pod that was refused. -/
  pod : Pod
  /-- Why. -/
  note : String
  deriving DecidableEq, Inhabited

namespace Rejection

/-- The namespace of the event; a pod without one is reported on in the system's. -/
def eventNamespace (r : Rejection) : String := r.pod.ns.getD "kube-system"

/-- The path to which the event is posted. -/
def path (r : Rejection) : String :=
  s!"/apis/events.k8s.io/v1/namespaces/{r.eventNamespace}/events"

/-- What the event is about. -/
def regarding (r : Rejection) : Json :=
  Json.present [("apiVersion", some (.text "v1")), ("kind", some (.text "Pod")),
    ("name", r.pod.name.map .text), ("namespace", r.pod.ns.map .text),
    ("uid", r.pod.uid.map .text)]

/-- The event. -/
def toJson (r : Rejection) : Json :=
  .object [("action", .text "Reconcile"), ("note", .text r.note),
    ("reason", .text "PowerProfileRejected"), ("regarding", r.regarding),
    ("reportingController", .text controllerName), ("reportingInstance", .text controllerName),
    ("type", .text "Warning")]

end Rejection

end PowerGrant
