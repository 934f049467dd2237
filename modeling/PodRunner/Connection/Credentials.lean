import PodRunner.Connection.AccessFile
import PodRunner.Connection.Der
import PodRunner.Connection.Pem
import PodRunner.Machine

/-!
# Credentials

Whether a connection can be made with the credentials of a user (`AccessUser.usable`), and whether
the certificates that a cluster is trusted by are any (`Authority`).
-/

namespace PodRunner

/-- A way into a cluster. -/
structure Access where
  address : String
  /-- A connection can be made with the credentials there are. -/
  usable : Bool

/-- What the library that makes connections finds and does beyond reading the files it is told to
read. -/
structure Connector where
  /-- What it finds if no access file is named. -/
  inferred : Option Access
  /-- It makes connections by way of the server at an address. -/
  proxied : String → Bool
  /-- The command of a user, which it runs, tells credentials that can be used. -/
  told : AccessUser → Bool

/-- A library that reads the files it is told to read, and no more. -/
def Connector.bare : Connector := ⟨none, fun _ => false, fun _ => false⟩

/-- The bytes of a material; a file is looked for beside the access file. -/
def Material.bytes? (m : Material) (files : Files) (path : String) : Option (List UInt8) :=
  match m.data with
  | some data => Base64.decode? data.toList
  | none => do (files (pathBeside path (← m.file))).toOption

/-- Nothing is given. -/
def Material.isEmpty (m : Material) : Bool := m.data.isNone && m.file.isNone

/-! ## Trust in a cluster -/

/-- The certificates by which a cluster is trusted. -/
abbrev Authority := List (List UInt8)

namespace Authority

def certificateLabel : String := "CERTIFICATE"

/-- The certificates of a cluster. -/
def ofCluster? (c : AccessCluster) (files : Files) (path : String) : Option Authority := do
  if c.authority.isEmpty then return []
  let blocks ← Pem.blocks? (← c.authority.bytes? files path)
  return (blocks.filter (·.label = certificateLabel)).map (·.content)

/-- All of them are certificates. -/
def valid (a : Authority) : Bool := a.all Der.isCertificate

end Authority

/-! ## Proofs of identity -/

namespace AccessUser

/-- The labels of private keys, each with the form of such a key. -/
def keyForms : List (String × (List UInt8 → Bool)) :=
  [("PRIVATE KEY", Der.isPrivateKey), ("RSA PRIVATE KEY", Der.isNumbersKey),
    ("EC PRIVATE KEY", Der.isCurveKey)]

/-- The bytes hold a private key and certificates. -/
def validIdentity (bytes : List UInt8) : Bool :=
  match Pem.blocks? bytes with
  | none => false
  | some blocks =>
    let certificates := blocks.filter (·.label = Authority.certificateLabel)
    let key? := keyForms.findSome? fun (label, form) =>
      (blocks.reverse.find? (·.label = label)).map fun b => form b.content
    !certificates.isEmpty && (certificates.all fun b => Der.isCertificate b.content) &&
      key?.getD false

/-- The certificate and the key of a user; none if one of them is not there. -/
def identity? (u : AccessUser) (files : Files) (path : String) : Option (List UInt8) := do
  let certificate ← u.certificate.bytes? files path
  let key ← u.key.bytes? files path
  return key ++ [10] ++ certificate

end AccessUser

/-- The bytes of a text may stand in a header. -/
def validHeader (s : String) : Bool :=
  (Utf8.encode s).all fun b => (32 ≤ b && b ≠ 127) || b = 9

/-- An identity service has given a token that can still be used, or its command tells one.  What
has expired is not used any more; a minute is left for the use. -/
def IdentityService.answers (s : IdentityService) (now : Timestamp) (told : Bool) : Bool :=
  let setting? (key : String) : Option String := s.settings.reverse.lookup key
  let asks := (setting? "cmd-path").isSome && told
  match s.name, setting? "id-token" with
  | "oidc", token? => token?.any validHeader
  | "gcp", some token => validHeader token
  | "gcp", none =>
    match setting? "access-token", (setting? "expiry").map Timestamp.parse with
    | some _, some (.ok t) => now.seconds + 60 < t.seconds || asks
    | some _, some (.error _) => false
    | _, _ => asks
  | _, _ => false

namespace AccessUser

/-- The first way to prove an identity that is given works: an identity service, a password, a token
or a file with one, a command. -/
def authenticates (u : AccessUser) (k : Connector) (m : Machine) (path : String) : Bool :=
  match u.service with
  | some service => service.answers m.now (k.told u)
  | none =>
    if u.name.isSome && u.password.isSome then true
    else
      match u.token, u.tokenFile with
      | some token, _ => validHeader token
      | none, some file => (m.files.text (pathBeside path file)).isOk
      | none, none => !u.asksCommand || k.told u

/-- A connection can be made with the credentials. -/
def usable (u : AccessUser) (k : Connector) (m : Machine) (path : String) : Bool :=
  u.authenticates k m path && ((u.identity? m.files path).all validIdentity) &&
    u.actsAs.all validHeader && u.actsAsGroups.all validHeader

end AccessUser

end PodRunner
