import Concentrator.Text.Decimal

/-!
# Counters

Packets that are dropped are counted instead of being reported.
-/

namespace Concentrator

structure Counters where
  read : Nat := 0
  toClients : Nat := 0
  /-- Packets from the interface without a mapping. -/
  unmapped : Nat := 0
  /-- Packets with a mapping whose address no session held. -/
  noRoute : Nat := 0
  /-- Packets that entered the queue to the interface. -/
  fromClients : Nat := 0
  noSession : Nat := 0
  untranslatable : Nat := 0
  /-- Data whose source was not the sender's lease. -/
  spoofed : Nat := 0
  /-- Messages that were empty, too long or anonymous. -/
  malformed : Nat := 0
  /-- Data that arrived after the writer had gone. -/
  writeFailed : Nat := 0
  queueFull : Nat := 0
  accepted : Nat := 0
  rejected : Nat := 0
  leaves : Nat := 0
deriving DecidableEq

namespace Counters

def toList (c : Counters) : List Nat :=
  [c.read, c.toClients, c.unmapped, c.noRoute, c.fromClients, c.noSession, c.untranslatable,
    c.spoofed, c.malformed, c.writeFailed, c.queueFull, c.accepted, c.rejected, c.leaves]

def line (title : String) (items : List (String × Nat)) : String :=
  title ++ ":" ++ String.join (items.map fun (name, n) => " " ++ name ++ "=" ++ Text.decimal n)

/-- Three lines: one for each direction of data and one for control messages. -/
def report (c : Counters) : String :=
  "\n".intercalate [
    line "internet->client" [("read", c.read), ("sent", c.toClients), ("unmapped", c.unmapped),
      ("no_route", c.noRoute)],
    line "client->internet" [("written", c.fromClients), ("no_session", c.noSession),
      ("untranslatable", c.untranslatable), ("spoofed", c.spoofed), ("malformed", c.malformed),
      ("write_failed", c.writeFailed), ("queue_full", c.queueFull)],
    line "control" [("accepted", c.accepted), ("rejected", c.rejected),
      ("disconnects", c.leaves)]]

end Counters

end Concentrator
