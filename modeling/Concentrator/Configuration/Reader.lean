import Concentrator.Configuration.Basic
import Concentrator.Document
import Concentrator.Toml.Parser

/-!
# Reading a configuration

Settings that a document leaves out keep their defaults, and members that are
no settings are ignored.
-/

namespace Concentrator.Configuration

/-- What document formats do not agree on. -/
structure Dialect where
  /-- A pair may be followed by elements that nobody reads. -/
  openPairs : Bool

def Dialect.toml : Dialect := ⟨true⟩

def Dialect.json : Dialect := ⟨false⟩

abbrev Members := List (String × Document)

/-- A member, or the default if there is none. -/
def setting {α : Type} (members : Members) (name : String) (default : α)
    (read? : Document → Option α) : Option α :=
  match Document.member? members name with
  | none => some default
  | some d => read? d

def address? (d : Document) : Option Ipv4 := do Ipv4.ofText? (← d.text?)

def network? (d : Document) : Option Network := do Network.ofText? (← d.text?)

def word? (d : Document) : Option UInt16 := (d.below? (UInt16.size)).map .ofNat

def doubleWord? (d : Document) : Option UInt64 := (d.below? (UInt64.size)).map .ofNat

/-- Null stands for a setting that is switched off. -/
def orOff? {α : Type} (read? : Document → Option α) : Document → Option (Option α)
  | .null => some none
  | d => (read? d).map some

def ports? (dialect : Dialect) : Document → Option (UInt16 × UInt16)
  | .list (first :: last :: rest) => do
    guard (dialect.openPairs ∨ rest.isEmpty)
    return (← word? first, ← word? last)
  | _ => none

/-- An access is told by its type; its other members may be given by name or in order. -/
def access? : Document → Option Access
  | .table members => do
    match ← (← Document.member? members "type").text? with
    | "udp" => return .datagram (← setting members "port" defaultPort word?)
    | "relay" =>
      return .relay (← setting members "url" defaultRelay Document.text?)
        (← (← Document.member? members "server_id").text?)
    | _ => none
  | .list (kind :: rest) => do
    match ← kind.text?, rest with
    | "udp", [] => return .datagram defaultPort
    | "udp", [port] => return .datagram (← word? port)
    | "relay", [url, id] => return .relay (← url.text?) (← id.text?)
    | _, _ => none
  | _ => none

/-- The settings in the order in which a list gives them. -/
def settingNames : List String :=
  ["shared_secret", "transport", "mtu", "network", "tunnel_source", "tunnel_destination",
    "tun_name", "route", "dns_server", "search_domain", "first_client_ip", "nat_port_range",
    "session_idle_timeout_secs", "nat_idle_timeout_secs", "sweep_interval_secs",
    "iface_writer_channel_size"]

def ofMembers? (dialect : Dialect) (members : Members) : Option Configuration := do
  let d := standard
  return {
    sharedSecret := ← setting members "shared_secret" d.sharedSecret Document.text?
    access := ← setting members "transport" d.access access?
    mtu := ← setting members "mtu" d.mtu word?
    network := ← setting members "network" d.network network?
    tunnelSource := ← setting members "tunnel_source" d.tunnelSource address?
    tunnelDestination := ← setting members "tunnel_destination" d.tunnelDestination address?
    deviceName := ← setting members "tun_name" d.deviceName Document.text?
    route := ← setting members "route" d.route network?
    dnsServer := ← setting members "dns_server" d.dnsServer (orOff? address?)
    searchDomain := ← setting members "search_domain" d.searchDomain (orOff? Document.text?)
    firstClient := ← setting members "first_client_ip" d.firstClient address?
    ports := ← setting members "nat_port_range" d.ports (ports? dialect)
    sessionIdleSeconds :=
      ← setting members "session_idle_timeout_secs" d.sessionIdleSeconds doubleWord?
    mappingIdleSeconds :=
      ← setting members "nat_idle_timeout_secs" d.mappingIdleSeconds doubleWord?
    sweepSeconds := ← setting members "sweep_interval_secs" d.sweepSeconds doubleWord?
    queueSize := ← setting members "iface_writer_channel_size" d.queueSize doubleWord? }

/-- The configuration of a document, which may be a table or a list of settings. -/
def ofDocument? (dialect : Dialect) : Document → Option Configuration
  | .table members => ofMembers? dialect members
  | .list items => do
    guard (items.length ≤ settingNames.length)
    ofMembers? dialect (settingNames.zip items)
  | _ => none

/-- The text could not be understood. -/
def unparsable : Failure := ⟨.config, "Failed to parse config", none⟩

def ofToml (s : String) : Except Failure Configuration :=
  match Toml.parse? s with
  | none => .error unparsable
  | some d =>
    match ofDocument? .toml d with
    | none => .error unparsable
    | some c => .ok c

/-- The configuration in a file with the given contents, if there is such a file. -/
def load (path : String) (contents : Option Bytes) : Except Failure Configuration :=
  match contents.bind Bytes.toText? with
  | none => .error ⟨.config, "Failed to read " ++ path, none⟩
  | some s => ofToml s

end Concentrator.Configuration
