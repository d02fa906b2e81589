import Concentrator.Checksum
import Concentrator.Main
import Concentrator.Proofs.Gateway.Tenancy
import Concentrator.Simulation.Bench
import Concentrator.Proofs.Gateway.Turns
import Concentrator.Proofs.Masquerade.History
import Concentrator.Proofs.Masquerade.Integrity
import Concentrator.Proofs.Masquerade.Confinement
import Concentrator.Proofs.Masquerade.Reversal
import Concentrator.Proofs.Masquerade.Exhaustion
import Concentrator.Proofs.Gateway.Construction
import Concentrator.Proofs.Gateway.Custody
import Concentrator.Proofs.Gateway.Ordering
import Concentrator.Proofs.Transport.Overlap
import Concentrator.Proofs.Transport.Reception
import Concentrator.Proofs.Gateway.Fairness
import Concentrator.Proofs.Session.Offers
import Concentrator.Proofs.Gateway.Outsiders
import Concentrator.Proofs.Gateway.Operations
import Concentrator.Proofs.Session.Lifetime
import Concentrator.Proofs.Session.Allocation
import Concentrator.Proofs.Masquerade.Purges
import Concentrator.Proofs.Gateway.Loss
import Concentrator.Proofs.Gateway.Repetition
import Concentrator.Proofs.Configuration.Extent
import Concentrator.Proofs.Masquerade.Translations
import Concentrator.Proofs.Eviction
import Concentrator.Proofs.Gateway.Reconnection
import Concentrator.Proofs.Checksum.Whole
import Concentrator.Proofs.Address.Ipv4
import Concentrator.Proofs.Session.Encoding
import Concentrator.Proofs.Session.Settings
import Concentrator.Proofs.Json.Quoted
import Concentrator.Proofs.Text.Base64
import Concentrator.Proofs.Transport.Forwarding
import Concentrator.Proofs.Sweeps
