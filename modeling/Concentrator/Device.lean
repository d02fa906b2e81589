import Concentrator.Configuration.Basic

/-!
# The tunnel device

The settings of the virtual interface that packets are written to and read
from, a point-to-point link whose far end is the external address.
-/

namespace Concentrator

structure Device where
  name : String
  address : Ipv4
  netmask : Ipv4
  destination : Ipv4
  mtu : UInt16
deriving DecidableEq

namespace Device

def ofConfiguration (c : Configuration) : Device where
  name := c.deviceName
  address := c.tunnelSource
  netmask := c.network.netmask
  destination := c.tunnelDestination
  mtu := c.mtu

/-- The most octets that the system takes in the name of an interface. -/
def maxName : Nat := 15

/-- The name that the system gives the device, if it can have it; without one it is numbered. -/
def systemName? (d : Device) : Option String :=
  if maxName < d.name.utf8ByteSize ∨ d.name.contains '\x00' then none
  else some (if d.name = "" then "tun0" else d.name)

end Device

end Concentrator
