import PowerGrant.Object.Metadata

/-!
# The shape of a node
-/

namespace PowerGrant.Object

open Json (Shape)
open Json.Shape (fieldsOf texts)

/-- Where the configuration of a node comes from. -/
def configSourceShape : Shape :=
  .record [("configMap", texts ["kubeletConfigKey", "name", "namespace", "resourceVersion", "uid"])]

/-- What a node is to be. -/
def nodeSpecShape : Shape :=
  .record <| fieldsOf .text ["externalID", "podCIDR", "providerID"] ++
    [("configSource", configSourceShape), ("podCIDRs", textList),
      ("taints", .list <| .record [("effect", .text), ("key", .text), ("timeAdded", .time),
        ("value", .text)]),
      ("unschedulable", .bool)]

/-- A condition that a node may be in. -/
def nodeConditionShape : Shape :=
  .record <| fieldsOf .text ["message", "reason", "status", "type"] ++
    fieldsOf .time ["lastHeartbeatTime", "lastTransitionTime"]

/-- The software of a node. -/
def nodeSystemShape : Shape :=
  texts ["architecture", "bootID", "containerRuntimeVersion", "kernelVersion", "kubeProxyVersion",
    "kubeletVersion", "machineID", "operatingSystem", "osImage", "systemUUID"]

/-- What has become of a node. -/
def nodeStatusShape : Shape :=
  .record [("addresses", .list (texts ["address", "type"])), ("allocatable", textMap),
    ("capacity", textMap), ("conditions", .list nodeConditionShape),
    ("config", .record <| ("error", .text) ::
      fieldsOf configSourceShape ["active", "assigned", "lastKnownGood"]),
    ("daemonEndpoints", .record [("kubeletEndpoint", .record [("Port", .int32)])]),
    ("images", .list (.record [("names", textList), ("sizeBytes", .int64)])),
    ("nodeInfo", nodeSystemShape), ("phase", .text),
    ("volumesAttached", .list (texts ["devicePath", "name"])), ("volumesInUse", textList)]

/-- A node. -/
def nodeShape : Shape :=
  .record [("apiVersion", .exactly "v1"), ("kind", .exactly "Node"), ("metadata", metadataShape),
    ("spec", nodeSpecShape), ("status", nodeStatusShape)]

end PowerGrant.Object
