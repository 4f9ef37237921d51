/-
From the cluster and the user of a context to a client: the checks that are
made before anything is sent. What a kubeconfig says about the cluster is
checked first, then whether the client can do what it is told to. The first
check that fails is the error that the user sees.
-/
import ClusterAudit.Connection.Certificate
import ClusterAudit.Connection.Files
import ClusterAudit.Connection.ServerName
import ClusterAudit.Timestamp

namespace ClusterAudit.Connection

/-! ## The cluster -/

/-- What is known of a cluster after its part of a kubeconfig has been read. -/
structure Target where
  server : Uri
  proxy : Option Uri := none
  /-- The certificates to trust, if any are named. -/
  authority : Option (List (List UInt8)) := none

namespace Target

def authority? (files : Files) (e : Endpoint) : Except KubeconfigError (Option (List Char)) :=
  if e.authority.isGiven then
    match e.authority.read? files with
    | some cs => .ok (some cs)
    | none => .error .noAuthority
  else .ok none

def ofEndpoint (files : Files) (e : Endpoint) (u : User) : Except KubeconfigError Target := do
  if u.plugin.any (·.needsCluster) then
    let _ ← authority? files e
  let some server := e.server | throw .noServer
  let server ← (Uri.parse server).mapError .badServer
  let authority ← (← authority? files e).mapM fun cs =>
    (Pem.certificates cs).mapError .badCertificates
  let proxy ← (e.proxy.filter (!·.isEmpty)).mapM fun text => (Uri.parse text).mapError .badProxy
  return { server := server, proxy := proxy, authority := authority }

end Target

/-! ## The client -/

/-- Why credentials cannot be had. -/
inductive CredentialError where
  /-- A provider or a program gives out none. -/
  | refused (reason : String)
  | noCommand
  | notStarted (reason : String)
  | unreadableToken (path : String) (error : FileError)
  | badExpiry (error : TimestampError)
  deriving DecidableEq

namespace CredentialError

def message : CredentialError → String
  | refused reason => "failed exec auth: " ++ reason
  | noCommand => "command must be specified to use exec authentication plugin"
  | notStarted reason => "unable to run auth exec: " ++ reason
  | unreadableToken path e => "failed to read token file '" ++ Text.quoted path ++ "': " ++ e.message
  | badExpiry e => "malformed token expiration date: " ++ e.message

end CredentialError

/-- Why there is no client for a cluster that is known. -/
inductive ClientError where
  | proxyNeeds (proxy feature : String)
  | unknownProxy (proxy : String)
  | noCredentials (error : CredentialError)
  | badRoot
  | noKey
  | noCertificate
  | badKey
  | badCertificate
  | badServerName
  | badHeader
  deriving DecidableEq

namespace ClientError

def message : ClientError → String
  | proxyNeeds proxy feature =>
    "configured proxy " ++ proxy ++ " requires the disabled feature " ++ Text.quoted feature
  | unknownProxy proxy => "configured proxy " ++ proxy ++ " uses an unsupported protocol"
  | noCredentials e => "auth error: " ++ e.message
  | badRoot => "rustls tls error: failed to add a root certificate: invalid peer certificate: BadEncoding"
  | noKey =>
    "rustls tls error: identity PEM is missing a private key: the key must be PKCS8 or RSA/PKCS1"
  | noCertificate => "rustls tls error: identity PEM is missing certificate"
  | badKey =>
    "rustls tls error: invalid private key: unexpected error: failed to parse private key as RSA, ECDSA, or EdDSA"
  | badCertificate =>
    "rustls tls error: invalid private key: invalid peer certificate: BadEncoding"
  | badServerName => "rustls tls error: invalid server name: invalid dns name"
  | badHeader => "HttpError: failed to parse header value"

end ClientError

/-- No proxy can be used, by whatever protocol. -/
def checkProxy (proxy : Uri) : Except ClientError Unit :=
  if proxy.scheme = some "socks5" then .error (.proxyNeeds proxy.text "kube/socks5")
  else if proxy.scheme = some "http" then .error (.proxyNeeds proxy.text "kube/http-proxy")
  else .error (.unknownProxy proxy.text)

namespace Provider

/-- The seconds that a token has to be good for yet. -/
def margin : Int := 20

/-- Whether a token is known that has not run out yet. -/
def hasFreshToken (p : Provider) (now : Int) : Except TimestampError Bool :=
  match p.config.get? "access-token", p.config.get? "expiry" with
  | some _, some expiry => return now + margin < (← Timestamp.parse expiry).seconds
  | _, _ => .ok false

/-- Whether the provider has a token at hand at the time `now`. -/
def check (p : Provider) (now : Int) : Except CredentialError Unit := do
  if p.name = "oidc" then
    if !p.config.contains "id-token" then
      throw (.refused "No id-token for oidc Authentication provider")
  else if p.name = "gcp" then
    if p.config.contains "id-token" then return
    if ← (p.hasFreshToken now).mapError .badExpiry then return
    match p.config.get? "cmd-path" with
    | some command =>
      throw <| .refused <| "Executing " ++ command ++
        " failed: Os \x7b code: 2, kind: NotFound, message: \"No such file or directory\" \x7d"
    | none =>
      throw (.refused
        "Enable oauth feature to use Google application credentials-based token source")
  else if p.name = "azure" then
    throw (.refused
      "The azure auth plugin is not supported; use https://github.com/Azure/kubelogin instead")
  else throw (.refused ("Authentication with provider " ++ p.name ++ " not supported"))

end Provider

namespace User

/-- Whether there are credentials at the time `now`, if the user has to have some. A provider comes
first, then a password, a token, a file with a token, and a program; there are
no programs here that could be started. -/
def checkCredentials (files : Files) (now : Int) (u : User) : Except CredentialError Unit := do
  if let some p := u.provider then
    p.check now
  else if u.username.isSome && u.password.isSome then return
  else if u.token.isSome then return
  else if let some path := u.tokenPath then
    let _ ← (files.read path).mapError (.unreadableToken path)
  else if let some p := u.plugin then
    if p.command.isSome then throw (.notStarted "No such file or directory (os error 2)")
    else throw .noCommand

/-- Labels of the keys that can be used; the first of them that there is
counts. -/
def keyLabels : List String := ["PRIVATE KEY", "RSA PRIVATE KEY", "EC PRIVATE KEY"]

/-- A key and a certificate have to be there and of the right outline if both
are given and can be read. Of several keys with one label the last counts, of
several certificates the first. -/
def checkIdentity (files : Files) (u : User) : Except ClientError Unit :=
  match u.certificate.read? files, u.key.read? files with
  | some certificate, some key =>
    let pieces := Pem.all (key ++ '\n' :: certificate)
    let isSound (test : List UInt8 → Bool) (p : Pem) : Bool := p.content.toOption.any test
    let key := keyLabels.findSome? fun label => pieces.reverse.find? (·.label == label)
    let certificate := pieces.find? (·.label == "CERTIFICATE")
    match key, certificate with
    | none, _ => .error .noKey
    | some _, none => .error .noCertificate
    | some key, some certificate =>
      if !isSound isKey key then .error .badKey
      else if !isSound isCertificate certificate then .error .badCertificate
      else .ok ()
  | _, _ => .ok ()

/-- Whether a text may stand in a header: it has no control characters of ASCII
but the tab. -/
def isHeader (s : String) : Bool :=
  s.toList.all fun c => c == '\t' || (0x20 ≤ c.toNat && c.toNat != 0x7F)

def checkHeaders (u : User) : Except ClientError Unit :=
  if (u.actsAs.toList ++ u.actsAsGroups).all isHeader then .ok () else .error .badHeader

end User

/-- Whether a client can be made at the time `now`. -/
def checkClient (files : Files) (now : Int) (e : Endpoint) (u : User) (t : Target) : Except ClientError Unit := do
  if let some proxy := t.proxy then checkProxy proxy
  (u.checkCredentials files now).mapError .noCredentials
  if !(t.authority.getD []).all isCertificate then throw .badRoot
  u.checkIdentity files
  if !e.serverName.all ServerName.isValid then throw .badServerName
  u.checkHeaders

end ClusterAudit.Connection
