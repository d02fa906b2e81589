import Concentrator.Configuration.Basic

/-!
# The command line

Options come as `--name value`, `--name=value`, `-n value`, `-nvalue` or
`-n=value`. The value of an option is looked at when the next option begins or
the line ends, so a stray argument outweighs a bad value right before it.
-/

namespace Concentrator.CommandLine

inductive UsageError where
  | unknownArgument
  /-- No value, or one that is not among the possible ones. -/
  | invalidValue
  | valueValidation
  | argumentConflict
  | tooManyValues
  | displayHelp
  | displayVersion
deriving DecidableEq

inductive AccessKind where
  | datagram
  | relay
deriving DecidableEq

structure Arguments where
  config : Option String := none
  secret : Option String := none
  transport : Option AccessKind := none
  port : Option UInt16 := none
  relayUrl : Option String := none
  serverId : Option String := none
  mtu : Option UInt16 := none
  network : Option Network := none
  deviceName : Option String := none
  tunnelSource : Option Ipv4 := none
  tunnelDestination : Option Ipv4 := none
  route : Option Network := none
  dnsServer : Option Ipv4 := none
  searchDomain : Option String := none
  firstClient : Option Ipv4 := none
deriving DecidableEq

inductive Setting where
  | config
  | secret
  | transport
  | port
  | relayUrl
  | serverId
  | mtu
  | network
  | deviceName
  | tunnelSource
  | tunnelDestination
  | route
  | dnsServer
  | searchDomain
  | firstClient
deriving DecidableEq

inductive Meaning where
  | takes (s : Setting)
  | help
  | version
deriving DecidableEq

def longOptions : List (String × Meaning) :=
  [("config", .takes .config), ("secret", .takes .secret), ("transport", .takes .transport),
    ("port", .takes .port), ("relay-url", .takes .relayUrl), ("server-id", .takes .serverId),
    ("mtu", .takes .mtu), ("network", .takes .network), ("tun-name", .takes .deviceName),
    ("tunnel-source", .takes .tunnelSource),
    ("tunnel-destination", .takes .tunnelDestination), ("route", .takes .route),
    ("dns-server", .takes .dnsServer), ("search-domain", .takes .searchDomain),
    ("first-ip", .takes .firstClient), ("help", .help), ("version", .version)]

def shortOptions : List (Char × Meaning) :=
  [('c', .takes .config), ('s', .takes .secret), ('t', .takes .transport), ('p', .takes .port),
    ('h', .help), ('V', .version)]

/-! ### Values -/

/-- An option may be given once. -/
def once {α : Type} (old : Option α) (value : Except UsageError α) :
    Except UsageError (Option α) :=
  if old.isSome then .error .argumentConflict else value.map some

def valid {α : Type} : Option α → Except UsageError α
  | some a => .ok a
  | none => .error .valueValidation

/-- A decimal number of 16 bits; a plus sign and leading zeros are allowed. -/
def word? (s : String) : Option UInt16 :=
  let ds := match s.toList with
    | '+' :: rest => rest
    | cs => cs
  match Text.decimal? (String.ofList ds) with
  | some n => if n < UInt16.size then some (.ofNat n) else none
  | none =>
    -- minus zero is zero
    match s.toList with
    | '-' :: rest => if rest ≠ [] ∧ rest.all (· = '0') then some 0 else none
    | _ => none

def nonEmpty (s : String) : Except UsageError String :=
  if s = "" then .error .invalidValue else .ok s

def accessKind (s : String) : Except UsageError AccessKind :=
  if s = "udp" then .ok .datagram
  else if s = "relay" then .ok .relay
  else .error .invalidValue

def Setting.store (value : String) (a : Arguments) : Setting → Except UsageError Arguments
  | .config => return { a with config := ← once a.config (nonEmpty value) }
  | .secret => return { a with secret := ← once a.secret (.ok value) }
  | .transport => return { a with transport := ← once a.transport (accessKind value) }
  | .port => return { a with port := ← once a.port (valid (word? value)) }
  | .relayUrl => return { a with relayUrl := ← once a.relayUrl (.ok value) }
  | .serverId => return { a with serverId := ← once a.serverId (.ok value) }
  | .mtu => return { a with mtu := ← once a.mtu (valid (word? value)) }
  | .network => return { a with network := ← once a.network (valid (Network.ofText? value)) }
  | .deviceName => return { a with deviceName := ← once a.deviceName (.ok value) }
  | .tunnelSource =>
    return { a with tunnelSource := ← once a.tunnelSource (valid (Ipv4.ofText? value)) }
  | .tunnelDestination =>
    return { a with tunnelDestination := ← once a.tunnelDestination (valid (Ipv4.ofText? value)) }
  | .route => return { a with route := ← once a.route (valid (Network.ofText? value)) }
  | .dnsServer => return { a with dnsServer := ← once a.dnsServer (valid (Ipv4.ofText? value)) }
  | .searchDomain => return { a with searchDomain := ← once a.searchDomain (.ok value) }
  | .firstClient =>
    return { a with firstClient := ← once a.firstClient (valid (Ipv4.ofText? value)) }

/-! ### Reading -/

structure Reader where
  arguments : Arguments := {}
  /-- The last option and its value, if it has come, which is still to be looked at. -/
  pending : Option (Setting × Option String) := none
  /-- After `--` there are no more options. -/
  trailing : Bool := false

namespace Reader

/-- Looks at the value of the last option. -/
def resolve (r : Reader) : Except UsageError Reader :=
  match r.pending with
  | none => .ok r
  | some (_, none) => .error .invalidValue
  | some (s, some value) => do
    return { r with arguments := ← s.store value r.arguments, pending := none }

/-- Begins an option, whose value may come with it. -/
def option (m : Meaning) (value : Option String) (r : Reader) : Except UsageError Reader := do
  let r ← r.resolve
  match m with
  | .help => throw .displayHelp
  | .version => throw .displayVersion
  | .takes s =>
    match value with
    | none => return { r with pending := some (s, none) }
    | some value => return { r with arguments := ← s.store value r.arguments }

/-- An option in long form, without its dashes. -/
def long (cs : List Char) (r : Reader) : Except UsageError Reader :=
  let name := String.ofList (cs.takeWhile (· ≠ '='))
  let value := match cs.dropWhile (· ≠ '=') with
    | [] => none
    | _ :: rest => some (String.ofList rest)
  match longOptions.lookup name, value with
  | none, _ => .error .unknownArgument
  | some (.takes s), _ => r.option (.takes s) value
  | some _, some _ => .error .tooManyValues
  | some m, none => r.option m none

/-- An option in short form, without its dash. -/
def short (c : Char) (rest : List Char) (r : Reader) : Except UsageError Reader :=
  match shortOptions.lookup c, rest with
  | none, _ => .error .unknownArgument
  | some m, [] => r.option m none
  | some m, '=' :: value => r.option m (some (String.ofList value))
  | some m, value => r.option m (some (String.ofList value))

/-- An argument that is no option. -/
def word (s : String) (r : Reader) : Except UsageError Reader :=
  match r.pending, r.trailing with
  | some (key, none), false => .ok { r with pending := some (key, some s) }
  | _, _ => .error .unknownArgument

def step (r : Reader) (s : String) : Except UsageError Reader :=
  if r.trailing then r.word s
  else
    match s.toList with
    | ['-', '-'] => .ok { r with trailing := true }
    | '-' :: '-' :: cs => r.long cs
    | '-' :: c :: rest => r.short c rest
    | _ => r.word s

end Reader

/-- The options on a command line, without the name of the program. -/
def parse (line : List String) : Except UsageError Arguments := do
  let r ← line.foldlM Reader.step {}
  return (← r.resolve).arguments

/-! ### Applying -/

/-- The access that the options ask for, over the one configured; none if the relay lacks a name
for the gateway. -/
def Arguments.access? (a : Arguments) (base : Access) : Option Access :=
  let kind := a.transport.getD (match base with
    | .datagram _ => .datagram
    | .relay .. => .relay)
  match kind, base with
  | .datagram, .datagram port => some (.datagram (a.port.getD port))
  | .datagram, .relay .. => some (.datagram (a.port.getD Configuration.defaultPort))
  | .relay, .datagram _ =>
    a.serverId.map fun id => .relay (a.relayUrl.getD Configuration.defaultRelay) id
  | .relay, .relay url id => some (.relay (a.relayUrl.getD url) (a.serverId.getD id))

def missingId : String := "--server-id is required for the relay transport"

/-- A configuration with the options put over it. -/
def Arguments.apply (a : Arguments) (c : Configuration) : Except String Configuration :=
  match a.access? c.access with
  | none => .error missingId
  | some access => .ok {
      c with
      access
      sharedSecret := a.secret.getD c.sharedSecret
      mtu := a.mtu.getD c.mtu
      network := a.network.getD c.network
      deviceName := a.deviceName.getD c.deviceName
      tunnelSource := a.tunnelSource.getD c.tunnelSource
      tunnelDestination := a.tunnelDestination.getD c.tunnelDestination
      route := a.route.getD c.route
      dnsServer := a.dnsServer <|> c.dnsServer
      searchDomain := a.searchDomain <|> c.searchDomain
      firstClient := a.firstClient.getD c.firstClient }

end Concentrator.CommandLine
