import Concentrator.Address.Network
import Concentrator.Address.Peer
import Concentrator.Failure
import Concentrator.Masquerade.Flow

/-!
# Notices

A notice is something that the gateway reports about itself. `Notice.line` is
its wording in the log.
-/

namespace Concentrator

inductive Level where
  | error
  | warn
  | info
  | debug
  | trace
deriving DecidableEq

namespace Level

def text : Level → String
  | .error => "ERROR"
  | .warn => "WARN"
  | .info => "INFO"
  | .debug => "DEBUG"
  | .trace => "TRACE"

/-- Worth showing to an operator who did not ask for details. -/
def isProminent : Level → Bool
  | .debug | .trace => false
  | _ => true

end Level

inductive Notice where
  -- masquerading
  | mappingCreated (internal : Endpoint) (port : UInt16)
  | mappingRemoved (internal : Endpoint) (port : UInt16)
  | portsExhausted (internal : Endpoint)
  | mappingsPurged (count : Nat) (address : Ipv4)
  -- sessions
  | wrongSecret (source : Peer)
  | expiredBeforeJoin (source : Peer)
  | switchedGroup (source : Peer) (old new : String)
  | addressesExhausted (source : Peer)
  | addressLeased (address : Ipv4) (group : String)
  | addressReleased (address : Ipv4) (group : String)
  | sessionJoined (source : Peer) (address : Ipv4) (group : String)
  | sessionExpired (source : Peer) (address : Ipv4)
  | sessionLeft (source : Peer) (address : Ipv4)
  | sessionsCleared (count : Nat)
  -- the gateway
  | notReceiving (source : Peer)
  | malformedJoin (source : Peer)
  | repeatedJoin (source : Peer) (address : Ipv4)
  | settingsTooLong (address : Ipv4) (limit : Nat)
  | interfaceFailed (operation reason : String)
  | transportClosed (transport : String) (byUser : Bool) (sessions : Nat)
  | transportRestarted (transport : String)
  | restartFailed (transport : String) (retrySeconds : Nat)
  | writerExited
  | swept (sessions mappings : Nat)
  | receiving (enabled : Bool)
  | processingStarted (transport : String)
  | processingStopped
  | shutDown
  -- the datagram transport
  | bindFailed (port : Nat) (reason : SystemError)
  | listening (address : SocketAddress)
  | datagramStopped
  | noDatagramDestination
  | datagramRefused (size : Nat) (destination : SocketAddress)
  | datagramUnsent (destination : SocketAddress) (reason : SystemError)
  | oversizedDatagram (source : SocketAddress)
  | receiveFailed (reason : SystemError)
  | rebound (port attempt : Nat)
  | rebindFailed (attempt port : Nat) (reason : SystemError)
  | datagramUnrecoverable
  -- the message relay
  | connectFailed (url reason : String)
  | connectTimedOut (url : String)
  | authenticationRefused (reason : String)
  | identityRefused (url id : String)
  | authenticationTimedOut (url : String)
  | authenticated (url id : String)
  | messageRelayStopped
  | noRelayDestination
  | messageRefused (size : Nat) (source : String)
  | reportedByRelay (message : String)
  | malformedFrame
  | closedByRelay
  | relayReadFailed (reason : String)
  -- the program
  | deviceCreated (name : String) (address destination : Ipv4)
  | deviceInUse (name : String) (mtu : Nat)
  | externalAddress (address : Ipv4)
  | launchFailed (failure : Failure)
  | startFailed (failure : Failure)
  | startImpossible (failure : Failure)
  | commands (names : List String)
  | interrupted
  | unknownCommand (line : String)
deriving DecidableEq

namespace Notice

def level : Notice → Level
  | .interfaceFailed .. | .bindFailed .. | .datagramUnrecoverable | .connectFailed ..
  | .connectTimedOut .. | .identityRefused .. | .authenticationTimedOut ..
  | .startImpossible .. => .error
  | .portsExhausted .. | .addressesExhausted .. | .settingsTooLong .. | .transportClosed ..
  | .restartFailed .. | .receiveFailed .. | .rebindFailed .. | .authenticationRefused ..
  | .reportedByRelay .. | .relayReadFailed .. | .launchFailed .. | .startFailed ..
  | .unknownCommand .. => .warn
  | .mappingsPurged .. | .wrongSecret .. | .expiredBeforeJoin .. | .malformedJoin ..
  | .repeatedJoin .. | .writerExited | .swept .. | .datagramStopped
  | .messageRelayStopped => .debug
  | .mappingCreated .. | .mappingRemoved .. | .notReceiving .. | .noDatagramDestination
  | .datagramRefused .. | .datagramUnsent .. | .oversizedDatagram .. | .noRelayDestination
  | .messageRefused .. | .malformedFrame => .trace
  | _ => .info

open Text

def text : Notice → String
  | .mappingCreated internal port =>
    s!"NAT mapping {internal.text} <-> :{decimal port.toNat} created"
  | .mappingRemoved internal port =>
    s!"NAT mapping {internal.text} <-> :{decimal port.toNat} removed"
  | .portsExhausted internal =>
    s!"NAT port pool exhausted, dropping packet from {internal.text}"
  | .mappingsPurged count address => s!"Purged {decimal count} NAT mappings for {address.text}"
  | .wrongSecret source => s!"CONNECT from {source.text} rejected: bad secret"
  | .expiredBeforeJoin source =>
    s!"Session {source.text} expired before its CONNECT, admitting afresh"
  | .switchedGroup source old new =>
    s!"{source.text} switched from group {old} to {new}, dropping old session"
  | .addressesExhausted source => s!"IP pool exhausted, CONNECT from {source.text} dropped"
  | .addressLeased address group => s!"Leased {address.text} to group {group}"
  | .addressReleased address group => s!"Released {address.text} (group {group})"
  | .sessionJoined source address group =>
    s!"Session {source.text} joined {address.text} (group {group})"
  | .sessionExpired source address => s!"Session {source.text} ({address.text}) expired"
  | .sessionLeft source address => s!"Session {source.text} ({address.text}) disconnected"
  | .sessionsCleared count => s!"Cleared {decimal count} sessions"
  | .notReceiving source => s!"CONNECT from {source.text} ignored: not receiving connections"
  | .malformedJoin source => s!"Malformed CONNECT from {source.text}"
  | .repeatedJoin source address => s!"Repeated CONNECT from {source.text} ({address.text})"
  | .settingsTooLong address limit =>
    s!"Connection parameters for {address.text} exceed {decimal limit} bytes"
  | .interfaceFailed operation reason =>
    s!"Virtual interface {operation} failed: {reason}; processing stopped"
  | .transportClosed transport byUser sessions =>
    s!"{transport} transport closed (by_user={byUser}), cleared {decimal sessions} sessions"
  | .transportRestarted transport => s!"{transport} transport restarted"
  | .restartFailed transport retrySeconds =>
    s!"{transport} transport restart failed, retrying in {decimal retrySeconds}s"
  | .writerExited => "Interface writer exited"
  | .swept sessions mappings =>
    s!"Swept {decimal sessions} idle sessions and {decimal mappings} idle NAT mappings"
  | .receiving enabled => "Receiving connections " ++ if enabled then "enabled" else "disabled"
  | .processingStarted transport => s!"Processing started on {transport} transport"
  | .processingStopped => "Processing stopped"
  | .shutDown => "Relay shut down"
  | .bindFailed port reason => s!"Failed to bind UDP port {decimal port}: {reason.text}"
  | .listening address => s!"UDP transport listening on {address.text}"
  | .datagramStopped => "UDP transport stopped"
  | .noDatagramDestination => "UDP send without datagram destination dropped"
  | .datagramRefused size destination =>
    s!"UDP send of {decimal size} bytes to {destination.text} dropped"
  | .datagramUnsent destination reason => s!"UDP send to {destination.text} failed: {reason.text}"
  | .oversizedDatagram source => s!"Oversized datagram from {source.text} dropped"
  | .receiveFailed reason => s!"UDP receive failed: {reason.text}, rebinding"
  | .rebound port attempt =>
    s!"UDP socket rebound on port {decimal port} (attempt {decimal attempt})"
  | .rebindFailed attempt port reason =>
    s!"UDP rebind attempt {decimal attempt} on port {decimal port} failed: {reason.text}"
  | .datagramUnrecoverable => "UDP transport could not recover, closing"
  | .connectFailed url reason => s!"Failed to connect to relay {url}: {reason}"
  | .connectTimedOut url => s!"Timed out connecting to relay {url}"
  | .authenticationRefused reason => s!"Relay rejected authentication: {reason}"
  | .identityRefused url id => s!"Relay {url} refused id {id}"
  | .authenticationTimedOut url => s!"Timed out authenticating with relay {url}"
  | .authenticated url id => s!"Authenticated on relay {url} as {id}"
  | .messageRelayStopped => "Relay transport stopped"
  | .noRelayDestination => "Relay send without relay destination dropped"
  | .messageRefused size source =>
    s!"Relay payload of {decimal size} bytes from {source} dropped"
  | .reportedByRelay message => s!"Relay reported error: {message}"
  | .malformedFrame => "Malformed relay frame dropped"
  | .closedByRelay => "Relay closed the connection: None"
  | .relayReadFailed reason => s!"Relay read failed: {reason}"
  | .deviceCreated name address destination =>
    s!"Created TUN device: {name} with {address.text} -> {destination.text}"
  | .deviceInUse name mtu => s!"Using tun device {name} (MTU {decimal mtu})"
  | .externalAddress address => s!"NAT external address {address.text}"
  | .launchFailed failure =>
    s!"Failed to start processing: {failure.text}; retry with startProcessConnections"
  | .startFailed failure => s!"Failed to start processing: {failure.text}"
  | .startImpossible failure =>
    s!"Cannot start processing until the relay is restarted: {failure.text}"
  | .commands names => "Commands: " ++ ", ".intercalate names
  | .interrupted => "Interrupted"
  | .unknownCommand line => s!"Unknown command: {line}"

def line (n : Notice) : String :=
  n.level.text ++ " " ++ n.text

end Notice

end Concentrator
