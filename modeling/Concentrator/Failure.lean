/-!
# Failures

A failure says which part of the gateway gave up and what it was doing; some
failures also keep the report of the layer below.
-/

namespace Concentrator

inductive FailureKind where
  | interface
  | transport
  | network
  | config
  | assignment
  | stopped
deriving DecidableEq

structure Failure where
  kind : FailureKind
  message : String
  /-- What the layer below reported. -/
  cause : Option String := none
deriving DecidableEq

namespace FailureKind

def title : FailureKind → String
  | .interface => "Interface error"
  | .transport => "Transport error"
  | .network => "Network error"
  | .config => "Configuration error"
  | .assignment => "IP assignment error"
  | .stopped => "Processing stopped"

/-- Restarting the transport can mend it. -/
def recoverable : FailureKind → Bool
  | .transport => true
  | .network => true
  | _ => false

end FailureKind

namespace Failure

def text (f : Failure) : String :=
  f.kind.title ++ ": " ++ f.message

def recoverable (f : Failure) : Bool := f.kind.recoverable

/-- What stands behind a failure, from the outside in. A refused assignment and stopped processing
have nothing behind them, and the report of the network is its own last word. -/
def chain (f : Failure) : List String :=
  match f.kind with
  | .interface | .transport | .config => f.message :: f.cause.toList
  | .network => [f.message]
  | .assignment | .stopped => []

end Failure

/-- What the network stack reports. -/
inductive SystemError where
  | notPermitted
  | addressInUse
  | connectionReset
  | connectionRefused
deriving DecidableEq

namespace SystemError

def text : SystemError → String
  | .notPermitted => "Operation not permitted (os error 1)"
  | .addressInUse => "Address already in use (os error 98)"
  | .connectionReset => "Connection reset by peer (os error 104)"
  | .connectionRefused => "Connection refused (os error 111)"

end SystemError

end Concentrator
