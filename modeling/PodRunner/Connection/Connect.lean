import PodRunner.Config
import PodRunner.Connection.Credentials
import PodRunner.Text.HostName
import PodRunner.Text.Uri

/-!
# Connecting to a cluster

Whether a runner's settings lead to a cluster: its access file must be readable and give an address,
an address in the settings, which takes precedence, must be one, and there must be credentials to
make a connection with.  The connection is made by a library; what this does beyond reading files is
a parameter (`Connector`), above all what it finds for settings without an access file.
-/

namespace PodRunner

/-- The cluster and the user that a context joins. -/
structure Target where
  cluster : AccessCluster
  user : AccessUser

namespace AccessFile

/-- What a context joins, or the current one.  A user that there is not has no credentials. -/
def target? (f : AccessFile) (context : Option String) : Option Target := do
  let c ← Named.find? (← context <|> f.current) f.contexts
  let cluster ← Named.find? c.cluster f.clusters
  return ⟨cluster, (c.user.bind fun name => Named.find? name f.users).getD {}⟩

end AccessFile

namespace Target

/-- The address of the server between, if there is one. -/
def proxy? (t : Target) : Option String := t.cluster.proxy.filter fun s => !s.isEmpty

/-- The address and the certificates of the cluster, if its settings are in order. -/
def trusted? (t : Target) (files : Files) (path : String) : Option (String × Authority) := do
  let address ← t.cluster.address
  if !Uri.valid address || !t.proxy?.all Uri.valid then none
  return (address, ← Authority.ofCluster? t.cluster files path)

/-- A connection can be made. -/
def reachable (t : Target) (k : Connector) (m : Machine) (path : String) (authority : Authority) :
    Bool :=
  t.proxy?.all k.proxied && t.user.usable k m path && authority.valid &&
    t.cluster.serverName.all HostName.valid

end Target

/-- The way into the cluster that an access file gives. -/
def accessIn (k : Connector) (m : Machine) (path : String) (context : Option String) :
    Except ConnectionFault Access := do
  let some file := (m.files.text path).toOption.bind AccessFile.parse? | throw (.unreadable path)
  let some target := file.target? context | throw .unusable
  let some (address, authority) := target.trusted? m.files path | throw .unusable
  return ⟨address, target.reachable k m path authority⟩

/-- The way into the cluster that settings mean. -/
def access (k : Connector) (m : Machine) (s : ClusterSettings) : Except ConnectionFault Access :=
  match s.kubeconfig, k.inferred with
  | some path, _ => accessIn k m path s.context
  | none, some found => .ok found
  | none, none => .error .unusable

/-- The address that the settings lead to. -/
def connect (k : Connector) (m : Machine) (s : ClusterSettings) :
    Except ConnectionFault String := do
  let found ← access k m s
  if let some host := s.host then
    if !Uri.valid host then throw (.badHost host)
  if !found.usable then throw .unusable
  return s.host.getD found.address

/-- Connecting as the executor needs it. -/
def connected (connect : ClusterSettings → Except ConnectionFault String) (s : ClusterSettings) :
    Except Error Unit :=
  ((connect s).map fun _ => ()).mapError .connection

/-- Connecting by files alone, as the executor needs it. -/
def connecting (m : Machine) : ClusterSettings → Except Error Unit := connected (connect .bare m)

end PodRunner
