import PowerGrant.Object.Placement
import PowerGrant.Object.Volume

/-!
# The shape of a pod
-/

namespace PowerGrant.Object

open Json (Shape)
open Json.Shape (fieldsOf texts)

/-- Who the containers of a pod run as. -/
def podSecurityShape : Shape :=
  .record <| identityFields ++
    [("fsGroup", .int64), ("fsGroupChangePolicy", .text), ("supplementalGroups", .list .int64),
      ("sysctls", .list (texts ["name", "value"]))]

/-- How a pod finds other hosts. -/
def nameServiceShape : Shape :=
  .record [("nameservers", textList), ("options", .list (texts ["name", "value"])),
    ("searches", textList)]

/-- What a pod is to be. -/
def podSpecShape : Shape :=
  .record <| fieldsOf .text ["dnsPolicy", "hostname", "nodeName", "preemptionPolicy",
      "priorityClassName", "restartPolicy", "runtimeClassName", "schedulerName", "serviceAccount",
      "serviceAccountName", "subdomain"] ++
    fieldsOf .bool ["automountServiceAccountToken", "enableServiceLinks", "hostIPC", "hostNetwork",
      "hostPID", "hostUsers", "setHostnameAsFQDN", "shareProcessNamespace"] ++
    fieldsOf .int64 ["activeDeadlineSeconds", "terminationGracePeriodSeconds"] ++
    fieldsOf textMap ["nodeSelector", "overhead"] ++
    fieldsOf (.list containerShape) ["containers", "initContainers"] ++
    [("affinity", affinityShape), ("dnsConfig", nameServiceShape),
      ("ephemeralContainers", .list addedContainerShape),
      ("hostAliases", .list (.record [("hostnames", textList), ("ip", .text)])),
      ("imagePullSecrets", .list localReferenceShape), ("os", texts ["name"]),
      ("priority", .int32), ("readinessGates", .list (texts ["conditionType"])),
      ("resourceClaims", .list <| .record [("name", .text),
        ("source", texts ["resourceClaimName", "resourceClaimTemplateName"])]),
      ("schedulingGates", .list (texts ["name"])), ("securityContext", podSecurityShape),
      ("tolerations", .list tolerationShape), ("topologySpreadConstraints", .list spreadShape),
      ("volumes", .list volumeShape)]

/-- A condition that a pod may be in. -/
def podConditionShape : Shape :=
  .record <| fieldsOf .text ["message", "reason", "status", "type"] ++
    fieldsOf .time ["lastProbeTime", "lastTransitionTime"]

/-- What has become of a pod. -/
def podStatusShape : Shape :=
  .record <| fieldsOf .text ["hostIP", "message", "nominatedNodeName", "phase", "podIP", "qosClass",
      "reason", "resize"] ++
    fieldsOf (.list containerStatusShape) ["containerStatuses", "ephemeralContainerStatuses",
      "initContainerStatuses"] ++
    fieldsOf (.list (texts ["ip"])) ["hostIPs", "podIPs"] ++
    [("conditions", .list podConditionShape),
      ("resourceClaimStatuses", .list (texts ["name", "resourceClaimName"])), ("startTime", .time)]

/-- A pod. -/
def podShape : Shape :=
  .record [("apiVersion", .exactly "v1"), ("kind", .exactly "Pod"), ("metadata", metadataShape),
    ("spec", podSpecShape), ("status", podStatusShape)]

end PowerGrant.Object
