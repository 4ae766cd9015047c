import PowerGrant.Yaml.Document
import PowerGrant.Yaml.Record

/-!
# Kubeconfigs

A kubeconfig names clusters, users and contexts; a context says which user turns to which cluster, and
one of the contexts is the current one. A file may consist of several documents, of which the first
that names something counts.

* `Kubeconfig.ofText?`: the kubeconfig that a text writes.
* `Kubeconfig.current?`: the cluster and the user of the current context.
-/

namespace PowerGrant

open Yaml (Value)

/-- Something that is given itself, in base 64, or as the path of a file. -/
structure Source where
  data : Option String := none
  file : Option String := none
  deriving DecidableEq, Repr, Inhabited

/-- What is said about a cluster. -/
structure ClusterEntry where
  server : Option String := none
  /-- The certificates of the authority that vouches for the server. -/
  authority : Source := {}
  proxy : Option String := none
  deriving DecidableEq, Repr, Inhabited

/-- Another party that knows a user's token. -/
structure Provider where
  name : String
  settings : List (String × String) := []
  deriving DecidableEq, Repr, Inhabited

/-- A program that knows a user's token. -/
structure ProgramEntry where
  command : Option String
  args : List String
  deriving DecidableEq, Repr, Inhabited

/-- What is said about a user. -/
structure UserEntry where
  name : Option String := none
  password : Option String := none
  token : Option String := none
  /-- The file that holds the token. -/
  tokenFile : Option String := none
  certificate : Source := {}
  key : Source := {}
  /-- The user who this one acts as. -/
  actsAs : Option String := none
  /-- The groups which this one acts for. -/
  groups : List String := []
  provider : Option Provider := none
  program : Option ProgramEntry := none
  deriving DecidableEq, Repr, Inhabited

/-- What is said about a context. -/
structure ContextEntry where
  cluster : String
  user : String
  deriving DecidableEq, Repr, Inhabited

/-- Entries by name; an entry may say nothing. -/
abbrev Named (α : Type) := List (String × Option α)

/-- A kubeconfig. -/
structure Kubeconfig where
  kind : Option String := none
  apiVersion : Option String := none
  currentContext : Option String := none
  clusters : Named ClusterEntry := []
  users : Named UserEntry := []
  contexts : Named ContextEntry := []
  deriving DecidableEq, Repr, Inhabited

namespace Kubeconfig

/-! ## Reading -/

/-- An extension: a name and anything that is data. -/
def extension? (v : Value) : Option Unit := do
  let fields ← v.record? ["name", "extension"]
  let _ ← Value.required? Value.text? "name" fields
  Value.required? (fun v => if v.isData then some () else none) "extension" fields

/-- A list of extensions, which may be missing. -/
def extensions? (fields : Value.Fields) : Option Unit := do
  let _ ← Value.optional? (Value.listOf? extension?) "extensions" fields

/-- What users prefer; it does not matter. -/
def preferences? (v : Value) : Option Unit := do
  let fields ← v.record? ["colors", "extensions"]
  let _ ← Value.optional? Value.truth? "colors" fields
  extensions? fields

/-- A source that two fields give. -/
def source? (field : String) (fields : Value.Fields) : Option Source := do
  return {
    data := ← Value.optional? Value.text? (field ++ "-data") fields
    file := ← Value.optional? Value.text? field fields }

/-- The cluster that a value describes. -/
def cluster? (v : Value) : Option ClusterEntry := do
  let fields ← v.record? ["server", "insecure-skip-tls-verify", "certificate-authority",
    "certificate-authority-data", "proxy-url", "tls-server-name", "extensions"]
  let _ ← Value.optional? Value.truth? "insecure-skip-tls-verify" fields
  let _ ← Value.optional? Value.text? "tls-server-name" fields
  extensions? fields
  return {
    server := ← Value.optional? Value.text? "server" fields
    authority := ← source? "certificate-authority" fields
    proxy := ← Value.optional? Value.text? "proxy-url" fields }

/-- The provider that a value describes. -/
def provider? (v : Value) : Option Provider := do
  let fields ← v.record? ["name", "config"]
  return {
    name := ← Value.required? Value.text? "name" fields
    settings := ← Value.orElse? [] (Value.mapOf? Value.text?) "config" fields }

/-- The words for whether a program may ask the user. -/
def interactiveModes : List String := ["Never", "IfAvailable", "Always"]

/-- Whether a program may ask the user: a word, or a tag with nothing behind it. -/
def interactiveMode? : Value → Option Unit
  | .text word => if interactiveModes.contains word then some () else none
  | .tagged word v =>
    match v.untag with
    | .null => if interactiveModes.contains word then some () else none
    | _ => none
  | _ => none

/-- The program that a value describes. -/
def program? (v : Value) : Option ProgramEntry := do
  let fields ← v.record? ["apiVersion", "command", "args", "env", "interactiveMode",
    "provideClusterInfo"]
  let _ ← Value.optional? Value.text? "apiVersion" fields
  let command ← Value.optional? Value.text? "command" fields
  let args ← Value.optional? (Value.listOf? Value.text?) "args" fields
  let _ ← Value.optional? (Value.listOf? (Value.mapOf? Value.text?)) "env" fields
  let _ ← Value.optional? interactiveMode? "interactiveMode" fields
  let _ ← Value.orElse? false Value.truth? "provideClusterInfo" fields
  return { command, args := args.getD [] }

/-- The user that a value describes. -/
def user? (v : Value) : Option UserEntry := do
  let fields ← v.record? ["username", "password", "token", "tokenFile", "client-certificate",
    "client-certificate-data", "client-key", "client-key-data", "as", "as-groups", "auth-provider",
    "exec"]
  return {
    name := ← Value.optional? Value.text? "username" fields
    password := ← Value.optional? Value.text? "password" fields
    token := ← Value.optional? Value.text? "token" fields
    tokenFile := ← Value.optional? Value.text? "tokenFile" fields
    certificate := ← source? "client-certificate" fields
    key := ← source? "client-key" fields
    actsAs := ← Value.optional? Value.text? "as" fields
    groups := (← Value.optional? (Value.listOf? Value.text?) "as-groups" fields).getD []
    provider := ← Value.optional? provider? "auth-provider" fields
    program := ← Value.optional? program? "exec" fields }

/-- The context that a value describes; it names cluster and user. -/
def context? (v : Value) : Option ContextEntry := do
  let fields ← v.record? ["cluster", "user", "namespace", "extensions"]
  let _ ← Value.optional? Value.text? "namespace" fields
  extensions? fields
  return {
    cluster := ← Value.required? Value.text? "cluster" fields
    user := ← Value.required? Value.text? "user" fields }

/-- The named entry that a value describes; what is said about it is read by `read?`. -/
def entryOf? {α : Type} (part : String) (read? : Value → Option α) (v : Value) :
    Option (String × Option α) := do
  let fields ← v.record? ["name", part]
  return (← Value.required? Value.text? "name" fields, ← Value.optional? read? part fields)

/-- The named entries of a part. -/
def named? {α : Type} (part : String) (read? : Value → Option α) (fields : Value.Fields) :
    Option (Named α) :=
  Value.orElse? [] (Value.listOf? (entryOf? part read?)) (part ++ "s") fields

/-- The kubeconfig that a document describes; an empty one says nothing. -/
def ofValue? (v : Value) : Option Kubeconfig := do
  let fields ← v.record? ["preferences", "clusters", "users", "contexts", "current-context",
    "extensions", "kind", "apiVersion"]
  let _ ← Value.optional? preferences? "preferences" fields
  extensions? fields
  return {
    kind := ← Value.optional? Value.text? "kind" fields
    apiVersion := ← Value.optional? Value.text? "apiVersion" fields
    currentContext := ← Value.optional? Value.text? "current-context" fields
    clusters := ← named? "cluster" cluster? fields
    users := ← named? "user" user? fields
    contexts := ← named? "context" context? fields }

/-! ## Several documents -/

/-- The entries of two lists, in which the first list counts for a name in both. -/
def mergeNamed {α : Type} (first second : Named α) : Named α :=
  first ++ second.filter fun e => !first.any fun f => f.1 = e.1

/-- Whether two statements go together. -/
def agree (first second : Option String) : Bool :=
  first.isNone || second.isNone || first = second

/-- What two kubeconfigs say together, if they are of the same kind. -/
def merge? (first second : Kubeconfig) : Option Kubeconfig :=
  if agree first.kind second.kind && agree first.apiVersion second.apiVersion then
    some {
      kind := first.kind <|> second.kind
      apiVersion := first.apiVersion <|> second.apiVersion
      currentContext := first.currentContext <|> second.currentContext
      clusters := mergeNamed first.clusters second.clusters
      users := mergeNamed first.users second.users
      contexts := mergeNamed first.contexts second.contexts }
  else none

/-- The kubeconfig that a text writes. -/
def ofText? (text : String) : Option Kubeconfig := do
  match ← (← Yaml.values? text).mapM ofValue? with
  | [] => return {}
  | first :: rest => rest.foldlM merge? first

/-! ## The current context -/

/-- What is said under a name; the first entry with the name counts. -/
def entry? {α : Type} (name : String) (entries : Named α) : Option α :=
  (entries.lookup name).join

/-- The cluster and the user of the current context. -/
def current? (k : Kubeconfig) : Option (ClusterEntry × UserEntry) := do
  let context ← entry? (← k.currentContext) k.contexts
  return (← entry? context.cluster k.clusters, ← entry? context.user k.users)

end Kubeconfig

end PowerGrant
