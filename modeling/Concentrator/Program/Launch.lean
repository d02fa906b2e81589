import Concentrator.CommandLine
import Concentrator.Configuration.Reader
import Concentrator.Device

/-!
# From the command line to a configuration

A file may give the settings, options override them, and the result has to be
sound. Each step that fails ends the program with what it was about and what
went wrong.
-/

namespace Concentrator

inductive Ending where
  | done
  | usage (e : CommandLine.UsageError)
  /-- What the program was about to do, and why it could not. -/
  | failed (attempt : String) (reason : Option String)
  /-- It could not go on at all. -/
  | aborted
deriving DecidableEq

namespace Ending

def because (attempt : String) (f : Failure) : Ending :=
  .failed attempt (some f.text)

end Ending

namespace Launch

/-- The settings to begin with; `read` gives the contents of a file. -/
def base (a : CommandLine.Arguments) (read : String → Option Bytes) :
    Except Ending Configuration :=
  match a.config with
  | none => .ok .standard
  | some path =>
    let attempt := "Failed to load config from " ++ path
    (Configuration.load path (read path)).mapError (.because attempt)

/-- The configuration that a command line asks for. -/
def configuration (line : List String) (read : String → Option Bytes) :
    Except Ending Configuration := do
  let a ← (CommandLine.parse line).mapError .usage
  let c ← (a.apply (← base a read)).mapError (.failed · none)
  match c.check with
  | .ok _ => return c
  | .error d => throw (.because "Invalid configuration" d.failure)

/-- The device of a configuration as the system sets it up, unless it fails to. -/
def device (c : Configuration) (works : Bool) : Except Ending Device :=
  let d := Device.ofConfiguration c
  match works, d.systemName? with
  | true, some name => .ok { d with name }
  | _, _ =>
    .error (.because "Failed to create tun device"
      ⟨.interface, "Failed to create TUN device", none⟩)

end Launch

end Concentrator
