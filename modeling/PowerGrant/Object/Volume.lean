import PowerGrant.Object.Container

/-!
# Shapes of volumes
-/

namespace PowerGrant.Object

open Json (Shape)
open Json.Shape (fieldsOf texts)

/-- Fields of a volume that lies elsewhere: texts, and whether it may only be read. -/
def remoteFields (names : List String) : List (String × Shape) :=
  ("readOnly", .bool) :: fieldsOf .text names

/-- The same for a volume that is reached with a secret. -/
def secretFields (names : List String) : List (String × Shape) :=
  ("secretRef", localReferenceShape) :: remoteFields names

/-- Keys of another object as files. -/
def keyFilesShape : Shape :=
  .list <| .record [("key", .text), ("mode", .int32), ("path", .text)]

/-- Fields of the pod as files. -/
def fieldFilesShape : Shape :=
  .list <| .record [("fieldRef", fieldReferenceShape), ("mode", .int32), ("path", .text),
    ("resourceFieldRef", resourceReferenceShape)]

/-- What a claim for a volume asks for. -/
def claimShape : Shape :=
  .record <| fieldsOf .text ["storageClassName", "volumeMode", "volumeName"] ++
    [("accessModes", textList), ("dataSource", texts ["apiGroup", "kind", "name"]),
      ("dataSourceRef", texts ["apiGroup", "kind", "name", "namespace"]),
      ("resources", resourcesShape), ("selector", labelSelectorShape)]

/-- Volumes that a cluster's machinery provides. -/
def providedVolumes : List (String × Shape) :=
  [("configMap", .record [("defaultMode", .int32), ("items", keyFilesShape), ("name", .text),
      ("optional", .bool)]),
    ("csi", .record <| ("nodePublishSecretRef", localReferenceShape) ::
      ("volumeAttributes", textMap) :: remoteFields ["driver", "fsType"]),
    ("downwardAPI", .record [("defaultMode", .int32), ("items", fieldFilesShape)]),
    ("emptyDir", texts ["medium", "sizeLimit"]),
    ("ephemeral", .record [("volumeClaimTemplate", .record
      [("metadata", metadataShape), ("spec", claimShape)])]),
    ("gitRepo", texts ["directory", "repository", "revision"]),
    ("hostPath", texts ["path", "type"]),
    ("persistentVolumeClaim", .record (remoteFields ["claimName"])),
    ("projected", .record [("defaultMode", .int32), ("sources", .list <| .record
      [("configMap", .record [("items", keyFilesShape), ("name", .text), ("optional", .bool)]),
        ("downwardAPI", .record [("items", fieldFilesShape)]),
        ("secret", .record [("items", keyFilesShape), ("name", .text), ("optional", .bool)]),
        ("serviceAccountToken", .record [("audience", .text), ("expirationSeconds", .int64),
          ("path", .text)])])]),
    ("secret", .record [("defaultMode", .int32), ("items", keyFilesShape), ("optional", .bool),
      ("secretName", .text)])]

/-- Volumes that lie on a service or a device. -/
def storedVolumes : List (String × Shape) :=
  [("awsElasticBlockStore", .record <|
      ("partition", .int32) :: remoteFields ["fsType", "volumeID"]),
    ("azureDisk", .record (remoteFields ["cachingMode", "diskName", "diskURI", "fsType", "kind"])),
    ("azureFile", .record (remoteFields ["secretName", "shareName"])),
    ("cephfs", .record <| ("monitors", textList) :: secretFields ["path", "secretFile", "user"]),
    ("cinder", .record (secretFields ["fsType", "volumeID"])),
    ("fc", .record <| ("lun", .int32) :: ("targetWWNs", textList) :: ("wwids", textList) ::
      remoteFields ["fsType"]),
    ("flexVolume", .record <| ("options", textMap) :: secretFields ["driver", "fsType"]),
    ("flocker", texts ["datasetName", "datasetUUID"]),
    ("gcePersistentDisk", .record <| ("partition", .int32) :: remoteFields ["fsType", "pdName"]),
    ("glusterfs", .record (remoteFields ["endpoints", "path"])),
    ("iscsi", .record <| ("lun", .int32) :: ("portals", textList) ::
      fieldsOf .bool ["chapAuthDiscovery", "chapAuthSession"] ++
      secretFields ["fsType", "initiatorName", "iqn", "iscsiInterface", "targetPortal"]),
    ("nfs", .record (remoteFields ["path", "server"])),
    ("photonPersistentDisk", texts ["fsType", "pdID"]),
    ("portworxVolume", .record (remoteFields ["fsType", "volumeID"])),
    ("quobyte", .record (remoteFields ["group", "registry", "tenant", "user", "volume"])),
    ("rbd", .record <| ("monitors", textList) ::
      secretFields ["fsType", "image", "keyring", "pool", "user"]),
    ("scaleIO", .record <| ("sslEnabled", .bool) ::
      secretFields ["fsType", "gateway", "protectionDomain", "storageMode", "storagePool", "system",
        "volumeName"]),
    ("storageos", .record (secretFields ["fsType", "volumeName", "volumeNamespace"])),
    ("vsphereVolume", texts ["fsType", "storagePolicyID", "storagePolicyName", "volumePath"])]

/-- A volume. -/
def volumeShape : Shape :=
  .record (("name", .text) :: providedVolumes ++ storedVolumes)

end PowerGrant.Object
