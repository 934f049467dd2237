import PodRunner.Yaml.Tree

/-!
# Access files

An access file lists clusters, users and contexts by name.  A context joins a cluster with a user;
one of them is the current one.  A text may hold several documents, which are read as one file
(`AccessFile.merge?`).
-/

namespace PodRunner

open Yaml (Tree)

/-- An entry of a list, by name; what it names may be missing. -/
structure Named (α : Type) where
  name : String
  entry : Option α

/-- Data in base 64, and the file that holds the data if they are not there. -/
structure Material where
  data : Option String := none
  file : Option String := none
  deriving DecidableEq

/-- A cluster and what is needed to trust it. -/
structure AccessCluster where
  address : Option String
  authority : Material
  /-- The address of a server between. -/
  proxy : Option String
  /-- The name that the cluster must prove to have. -/
  serverName : Option String

/-- A service that knows who a user is. -/
structure IdentityService where
  name : String
  settings : List (String × String)

/-- How a user proves who it is. -/
structure AccessUser where
  name : Option String := none
  password : Option String := none
  token : Option String := none
  tokenFile : Option String := none
  certificate : Material := {}
  key : Material := {}
  /-- The user in whose place this one acts, and the groups of that user. -/
  actsAs : Option String := none
  actsAsGroups : List String := []
  service : Option IdentityService := none
  /-- A command tells the credentials. -/
  asksCommand : Bool := false

/-- What joins a cluster with a user. -/
structure AccessContext where
  cluster : String
  user : Option String

structure AccessFile where
  clusters : List (Named AccessCluster) := []
  users : List (Named AccessUser) := []
  contexts : List (Named AccessContext) := []
  current : Option String := none
  kind : Option String := none
  version : Option String := none

/-! ## Reading -/

namespace Named

variable {α : Type}

def read (part : String) (entry : Tree → Decoded α) : Tree → Decoded (Named α) :=
  Format.record "Named" ["name", part] fun src =>
    Named.mk <$> src.required "name" Format.text <*> src.maybe part entry

/-- What the first entry of that name names. -/
def find? (name : String) (entries : List (Named α)) : Option α :=
  (entries.find? (·.name = name)).bind (·.entry)

end Named

/-- Reads anything and keeps nothing of it. -/
def readIgnored {α : Type} (read : Tree → Decoded α) (x : Tree) : Decoded Unit :=
  (fun _ => ()) <$> read x

/-- Settings of others, each of which must have a name and a value. -/
def readExtensions : Tree → Decoded (List Unit) :=
  Format.list <| Format.record "NamedExtension" ["name", "extension"] fun src =>
    (fun _ _ => ()) <$> src.required "name" Format.text <*>
      src.required "extension" (readIgnored Format.untyped)

/-- A map from texts to texts. -/
def readTexts (x : Tree) : Decoded (List (String × String)) := do
  (← x.readEntries).mapM fun (k, v) => do return (k, ← Format.text v)

def readMaterial (src : Fields Tree) (name : String) : Reading Material :=
  (fun file data => ⟨data, file⟩) <$> src.maybe name Format.text <*>
    src.maybe (name ++ "-data") Format.text

namespace AccessCluster

def fieldNames : List String :=
  ["server", "insecure-skip-tls-verify", "certificate-authority", "certificate-authority-data",
    "proxy-url", "disable-compression", "tls-server-name", "extensions"]

def read : Tree → Decoded AccessCluster :=
  Format.record "Cluster" fieldNames fun src =>
    (fun address _ authority proxy _ serverName _ => ⟨address, authority, proxy, serverName⟩) <$>
      src.maybe "server" Format.text <*> src.maybe "insecure-skip-tls-verify" Format.flag <*>
      readMaterial src "certificate-authority" <*> src.maybe "proxy-url" Format.text <*>
      src.maybe "disable-compression" Format.flag <*> src.maybe "tls-server-name" Format.text <*>
      src.maybe "extensions" readExtensions

end AccessCluster

def IdentityService.read : Tree → Decoded IdentityService :=
  Format.record "AuthProviderConfig" ["name", "config"] fun src =>
    IdentityService.mk <$> src.required "name" Format.text <*> src.optional "config" readTexts []

/-- When a command may ask its user. -/
def askingModes : List String := ["Never", "IfAvailable", "Always"]

/-- A mode is a text, or a tag of nothing. -/
def readAskingMode (x : Tree) : Decoded Unit :=
  let mode? : Option String := match x with
    | .tagged mode (.scalar .null) => some mode
    | .scalar (.text mode) => some mode
    | _ => none
  if mode?.any askingModes.contains then .ok () else .error .malformed

/-- The command that tells credentials. -/
def readCommand : Tree → Decoded Unit :=
  let names := ["apiVersion", "command", "args", "env", "interactiveMode", "provideClusterInfo"]
  Format.record "ExecConfig" names fun src =>
    (fun _ _ _ _ _ _ => ()) <$> src.maybe "apiVersion" Format.text <*>
      src.maybe "command" Format.text <*> src.maybe "args" (Format.list Format.text) <*>
      src.maybe "env" (Format.list readTexts) <*> src.maybe "interactiveMode" readAskingMode <*>
      src.optional "provideClusterInfo" Format.flag false

namespace AccessUser

def fieldNames : List String :=
  ["username", "password", "token", "tokenFile", "client-certificate", "client-certificate-data",
    "client-key", "client-key-data", "as", "as-groups", "auth-provider", "exec"]

def read : Tree → Decoded AccessUser :=
  Format.record "AuthInfo" fieldNames fun src =>
    (fun name password token tokenFile certificate key actsAs groups service command =>
      ⟨name, password, token, tokenFile, certificate, key, actsAs, groups.getD [], service,
        command.isSome⟩) <$>
      src.maybe "username" Format.text <*> src.maybe "password" Format.text <*>
      src.maybe "token" Format.text <*> src.maybe "tokenFile" Format.text <*>
      readMaterial src "client-certificate" <*> readMaterial src "client-key" <*>
      src.maybe "as" Format.text <*> src.maybe "as-groups" (Format.list Format.text) <*>
      src.maybe "auth-provider" IdentityService.read <*> src.maybe "exec" readCommand

end AccessUser

def AccessContext.read : Tree → Decoded AccessContext :=
  Format.record "Context" ["cluster", "user", "namespace", "extensions"] fun src =>
    (fun cluster user _ _ => ⟨cluster, user⟩) <$> src.required "cluster" Format.text <*>
      src.maybe "user" Format.text <*> src.maybe "namespace" Format.text <*>
      src.maybe "extensions" readExtensions

def readPreferences : Tree → Decoded Unit :=
  Format.record "Preferences" ["colors", "extensions"] fun src =>
    (fun _ _ => ()) <$> src.maybe "colors" Format.flag <*> src.maybe "extensions" readExtensions

namespace AccessFile

def fieldNames : List String :=
  ["preferences", "clusters", "users", "contexts", "current-context", "extensions", "kind",
    "apiVersion"]

/-- Reads a list of named entries, which may be left out. -/
def readNamed {α : Type} (src : Fields Tree) (key part : String) (read : Tree → Decoded α) :
    Reading (List (Named α)) :=
  src.optional key (Format.list (Named.read part read)) []

def read : Tree → Decoded AccessFile :=
  Format.record "Kubeconfig" fieldNames fun src =>
    (fun _ clusters users contexts current _ kind version =>
      ⟨clusters, users, contexts, current, kind, version⟩) <$>
      src.maybe "preferences" readPreferences <*>
      readNamed src "clusters" "cluster" AccessCluster.read <*>
      readNamed src "users" "user" AccessUser.read <*>
      readNamed src "contexts" "context" AccessContext.read <*>
      src.maybe "current-context" Format.text <*> src.maybe "extensions" readExtensions <*>
      src.maybe "kind" Format.text <*> src.maybe "apiVersion" Format.text

/-- Two texts that may be missing agree if both are there and equal, or one is not there. -/
def agree (a b : Option String) : Bool := a.isNone || b.isNone || a = b

/-- Two files as one, unless they are of different kinds.  Of two entries with one name the first
counts. -/
def merge? (a b : AccessFile) : Option AccessFile :=
  if agree a.kind b.kind && agree a.version b.version then
    some ⟨a.clusters ++ b.clusters, a.users ++ b.users, a.contexts ++ b.contexts,
      a.current <|> b.current, a.kind <|> b.kind, a.version <|> b.version⟩
  else none

/-- Reads a document. -/
def ofDocument? (d : Yaml.Document) : Option AccessFile := do
  (read (← Tree.ofDocument? d)).toOption

/-- A text without the mark of its encoding. -/
def withoutMark (s : String) : String :=
  if s.startsWith "\uFEFF" then (s.drop 1).toString else s

/-- Reads the documents of a text, one after the other. -/
def parse? (s : String) : Option AccessFile := do
  let documents ← Yaml.Document.all? (withoutMark s)
  let files ← documents.mapM ofDocument?
  files.foldlM merge? {}

/-- The files that are named in the file. -/
def fileNames (f : AccessFile) : List String :=
  f.clusters.filterMap (·.entry.bind (·.authority.file)) ++
    (f.users.filterMap (·.entry)).flatMap fun u =>
      [u.tokenFile, u.certificate.file, u.key.file].filterMap id

end AccessFile

end PodRunner
