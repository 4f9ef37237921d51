/-
Kubeconfigs as they are written: YAML, of one document or of several that are
merged. Everything that a kubeconfig may say has to be of its type, also what
is not needed here: one that is not is refused as a whole, and no cluster is
reached through it.
-/
import ClusterAudit.Connection.Kubeconfig
import ClusterAudit.Yaml.Decode
import ClusterAudit.Yaml.Reader

namespace ClusterAudit.Connection

open Yaml (Fields Value)

/-- Extensions may hold anything that JSON can write, but each of them needs a
name. -/
def fitExtension (v : Value) : Option Unit := do
  let fields : Fields ← v.record? ["name", "extension"]
  let _ ← fields.required Value.string? "name"
  let content ← fields.required some "extension"
  if content.isJson then some () else none

def fitExtensions (fields : Fields) : Option Unit :=
  fields.fit (Value.list? fitExtension) ["extensions"]

/-- An entry of a list of named things, which are under the name of their own
sort. -/
def Named.decode? {α : Type} (sort : String) (f : Value → Option α) (v : Value) :
    Option (Named α) := do
  let fields : Fields ← v.record? ["name", sort]
  return { name := ← fields.required Value.string? "name", value := ← fields.optional f sort }

/-- The named things of a sort. -/
def Named.decodeAll? {α : Type} (sort : String) (f : Value → Option α) (fields : Fields)
    (name : String) : Option (List (Named α)) :=
  fields.defaulted (Value.list? (Named.decode? sort f)) [] name

/-- Data and path of certificates or keys, of which the data is in a field with a
longer name. -/
def Material.ofFields? (fields : Fields) (name : String) : Option Material := do
  return { data := ← fields.text? (name ++ "-data"), path := ← fields.text? name }

namespace Endpoint

def decode? (v : Value) : Option Endpoint := do
  let fields : Fields ← v.record?
    ["server", "insecure-skip-tls-verify", "certificate-authority", "certificate-authority-data",
     "proxy-url", "disable-compression", "tls-server-name", "extensions"]
  fields.fit Value.bool? ["insecure-skip-tls-verify", "disable-compression"]
  fitExtensions fields
  return {
    server := ← fields.text? "server"
    authority := ← Material.ofFields? fields "certificate-authority"
    proxy := ← fields.text? "proxy-url"
    serverName := ← fields.text? "tls-server-name" }

end Endpoint

namespace Context

def decode? (v : Value) : Option Context := do
  let fields : Fields ← v.record? ["cluster", "user", "namespace", "extensions"]
  fields.fit Value.string? ["namespace"]
  fitExtensions fields
  return { cluster := ← fields.required Value.string? "cluster", user := ← fields.text? "user" }

end Context

namespace Provider

def decode? (v : Value) : Option Provider := do
  let fields : Fields ← v.record? ["name", "config"]
  return {
    name := ← fields.required Value.string? "name"
    config := ← fields.presentOr Value.stringMap? {} "config" }

end Provider

namespace Plugin

/-- When a plugin may ask the user for something. -/
def interactions : List String := ["Never", "IfAvailable", "Always"]

def decode? (v : Value) : Option Plugin := do
  let fields : Fields ← v.record?
    ["apiVersion", "command", "args", "env", "interactiveMode", "provideClusterInfo"]
  fields.fit Value.string? ["apiVersion"]
  fields.fit (Value.list? Value.string?) ["args"]
  fields.fit (Value.list? Value.stringMap?) ["env"]
  fields.fit (Value.word? interactions) ["interactiveMode"]
  return {
    command := ← fields.text? "command"
    needsCluster := ← fields.presentOr Value.bool? false "provideClusterInfo" }

end Plugin

namespace User

def decode? (v : Value) : Option User := do
  let fields : Fields ← v.record?
    ["username", "password", "token", "tokenFile", "client-certificate",
     "client-certificate-data", "client-key", "client-key-data", "as", "as-groups",
     "auth-provider", "exec"]
  return {
    username := ← fields.text? "username"
    password := ← fields.text? "password"
    token := ← fields.text? "token"
    tokenPath := ← fields.text? "tokenFile"
    certificate := ← Material.ofFields? fields "client-certificate"
    key := ← Material.ofFields? fields "client-key"
    actsAs := ← fields.text? "as"
    actsAsGroups := ← fields.defaulted (Value.list? Value.string?) [] "as-groups"
    provider := ← fields.optional Provider.decode? "auth-provider"
    plugin := ← fields.optional Plugin.decode? "exec" }

end User

namespace Kubeconfig

def fitPreferences (v : Value) : Option Unit := do
  let fields : Fields ← v.record? ["colors", "extensions"]
  fields.fit Value.bool? ["colors"]
  fitExtensions fields

def decode? (v : Value) : Option Kubeconfig := do
  let fields : Fields ← v.record?
    ["preferences", "clusters", "users", "contexts", "current-context", "extensions", "kind",
     "apiVersion"]
  fields.fit fitPreferences ["preferences"]
  fitExtensions fields
  return {
    kind := ← fields.text? "kind"
    version := ← fields.text? "apiVersion"
    clusters := ← Named.decodeAll? "cluster" Endpoint.decode? fields "clusters"
    users := ← Named.decodeAll? "user" User.decode? fields "users"
    contexts := ← Named.decodeAll? "context" Context.decode? fields "contexts"
    currentContext := ← fields.text? "current-context" }

/-- The kubeconfig that a text holds. All documents of it are read before they
are merged. -/
def parse (text : String) : Except KubeconfigError Kubeconfig := do
  let configs ← (Yaml.read text).mapM fun
    | none => .error (.malformed "not YAML")
    | some v =>
      match decode? v with
      | some k => .ok k
      | none => .error (.unsuitable "not a kubeconfig")
  configs.foldlM merge {}

end Kubeconfig

end ClusterAudit.Connection
