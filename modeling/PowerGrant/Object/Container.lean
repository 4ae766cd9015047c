import PowerGrant.Object.Metadata

/-!
# Shapes of containers and their statuses
-/

namespace PowerGrant.Object

open Json (Shape)
open Json.Shape (fieldsOf texts)

/-! ## What a container runs with -/

/-- A field of the pod itself. -/
def fieldReferenceShape : Shape := texts ["apiVersion", "fieldPath"]

/-- A resource of a container. -/
def resourceReferenceShape : Shape := texts ["containerName", "divisor", "resource"]

/-- A key of another object. -/
def keyReferenceShape : Shape := .record [("key", .text), ("name", .text), ("optional", .bool)]

/-- A variable of the environment. -/
def variableShape : Shape :=
  .record [("name", .text), ("value", .text),
    ("valueFrom", .record [("configMapKeyRef", keyReferenceShape),
      ("fieldRef", fieldReferenceShape), ("resourceFieldRef", resourceReferenceShape),
      ("secretKeyRef", keyReferenceShape)])]

/-- Variables of the environment that another object gives. -/
def variablesShape : Shape :=
  let reference : Shape := .record [("name", .text), ("optional", .bool)]
  .record [("configMapRef", reference), ("prefix", .text), ("secretRef", reference)]

/-- A port of a container. -/
def portShape : Shape :=
  .record <| fieldsOf .text ["hostIP", "name", "protocol"] ++
    fieldsOf .int32 ["containerPort", "hostPort"]

/-- A place where a volume is mounted. -/
def mountShape : Shape :=
  .record <| ("readOnly", .bool) ::
    fieldsOf .text ["mountPath", "mountPropagation", "name", "subPath", "subPathExpr"]

/-! ## What a container is probed with -/

/-- A command. -/
def commandShape : Shape := .record [("command", textList)]

/-- A request. -/
def httpShape : Shape :=
  .record [("host", .text), ("httpHeaders", .list (texts ["name", "value"])), ("path", .text),
    ("port", .int32OrText), ("scheme", .text)]

/-- A connection. -/
def socketShape : Shape := .record [("host", .text), ("port", .int32OrText)]

/-- What is done when a container starts or stops. -/
def hookShape : Shape :=
  .record [("exec", commandShape), ("httpGet", httpShape), ("tcpSocket", socketShape)]

/-- How it is found out whether a container works. -/
def probeShape : Shape :=
  .record <| fieldsOf .int32 ["failureThreshold", "initialDelaySeconds", "periodSeconds",
      "successThreshold", "timeoutSeconds"] ++
    [("exec", commandShape), ("grpc", .record [("port", .int32), ("service", .text)]),
      ("httpGet", httpShape), ("tcpSocket", socketShape),
      ("terminationGracePeriodSeconds", .int64)]

/-! ## What a container may do -/

/-- The labels of a process. -/
def processLabelsShape : Shape := texts ["level", "role", "type", "user"]

/-- The system calls that are allowed. -/
def systemCallsShape : Shape := texts ["localhostProfile", "type"]

/-- What only containers of one system know. -/
def windowsShape : Shape :=
  .record <| ("hostProcess", .bool) ::
    fieldsOf .text ["gmsaCredentialSpec", "gmsaCredentialSpecName", "runAsUserName"]

/-- Who a container or a pod runs as. -/
def identityFields : List (String × Shape) :=
  [("runAsGroup", .int64), ("runAsNonRoot", .bool), ("runAsUser", .int64),
    ("seLinuxOptions", processLabelsShape), ("seccompProfile", systemCallsShape),
    ("windowsOptions", windowsShape)]

/-- What a container may do. -/
def securityShape : Shape :=
  .record <| identityFields ++
    fieldsOf .bool ["allowPrivilegeEscalation", "privileged", "readOnlyRootFilesystem"] ++
    [("capabilities", .record [("add", textList), ("drop", textList)]), ("procMount", .text)]

/-! ## Containers -/

/-- The fields of every container. -/
def containerFields : List (String × Shape) :=
  fieldsOf .text ["image", "imagePullPolicy", "name", "restartPolicy", "terminationMessagePath",
      "terminationMessagePolicy", "workingDir"] ++
    fieldsOf textList ["args", "command"] ++
    fieldsOf .bool ["stdin", "stdinOnce", "tty"] ++
    fieldsOf probeShape ["livenessProbe", "readinessProbe", "startupProbe"] ++
    [("env", .list variableShape), ("envFrom", .list variablesShape),
      ("lifecycle", .record [("postStart", hookShape), ("preStop", hookShape)]),
      ("ports", .list portShape), ("resizePolicy", .list (texts ["resourceName", "restartPolicy"])),
      ("resources", resourcesShape), ("securityContext", securityShape),
      ("volumeDevices", .list (texts ["devicePath", "name"])), ("volumeMounts", .list mountShape)]

/-- A container. -/
def containerShape : Shape := .record containerFields

/-- A container that was added to a running pod. -/
def addedContainerShape : Shape := .record (("targetContainerName", .text) :: containerFields)

/-- The state of a container. -/
def containerStateShape : Shape :=
  .record [("running", .record [("startedAt", .time)]),
    ("terminated", .record <| fieldsOf .text ["containerID", "message", "reason"] ++
      fieldsOf .int32 ["exitCode", "signal"] ++ fieldsOf .time ["finishedAt", "startedAt"]),
    ("waiting", texts ["message", "reason"])]

/-- The status of a container. -/
def containerStatusShape : Shape :=
  .record <| fieldsOf .text ["containerID", "image", "imageID", "name"] ++
    fieldsOf .bool ["ready", "started"] ++
    fieldsOf containerStateShape ["lastState", "state"] ++
    [("allocatedResources", textMap), ("resources", resourcesShape), ("restartCount", .int32)]

end PowerGrant.Object
