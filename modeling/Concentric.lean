import Concentric.Main
import Concentric.Step
import Concentric.Proofs.Document
import Concentric.Proofs.References
import Concentric.Proofs.Markers.References
import Concentric.Proofs.Binary64.Overflow
import Concentric.Proofs.Independence
import Concentric.Proofs.Refusals
import Concentric.Proofs.Decimal.Exact
import Concentric.Proofs.Extension
import Concentric.Proofs.Lines
import Concentric.Proofs.Recovery
import Concentric.Proofs.IncompleteRings
import Concentric.Proofs.Binary64.Value
import Concentric.Proofs.Decimal.Tenths
import Concentric.Proofs.Geometry.PathPrecision
import Concentric.Proofs.Markup.Values
import Concentric.Proofs.Geometry.Arcs
import Concentric.Proofs.ExactRings
import Concentric.Proofs.Binary64.Error
import Concentric.Proofs.Geometry.Offsets
import Concentric.Proofs.ComponentLabels
import Concentric.Proofs.Geometry.OffsetAccuracy
import Concentric.Proofs.Directories
import Concentric.Proofs.Binary64.Order
import Concentric.Proofs.Generation
import Concentric.Proofs.RingOrder
import Concentric.Proofs.Geometry.Regions
import Concentric.Proofs.ConnectorAgreement
