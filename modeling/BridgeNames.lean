import BridgeNames.Text.Blank
import BridgeNames.Text.UpperCase
import BridgeNames.ManagedType.Draft
import BridgeNames.ManagedType.Equality
import BridgeNames.Session.Batch
import BridgeNames.Proofs.Descriptor.Simulation
import BridgeNames.Proofs.ManagedType.SystemTypes
import BridgeNames.Proofs.Registration.Warnings
import BridgeNames.Proofs.Spelling.Coverage
import BridgeNames.Proofs.Session.Rendering
import BridgeNames.Proofs.Session.History
import BridgeNames.Proofs.Session.LoadOrder
import BridgeNames.Proofs.Spelling.Warnings
import BridgeNames.Proofs.Parameter.Siblings
import BridgeNames.Proofs.Parameter.Argument
import BridgeNames.Proofs.Spelling.Unboxing
import BridgeNames.Proofs.Registration.Relevance
import BridgeNames.Proofs.Congruence
import BridgeNames.Proofs.Spelling.Visible
import BridgeNames.Proofs.Parameter.Growth
import BridgeNames.Proofs.Parameter.Pointer
import BridgeNames.Proofs.Diagnostic.Arrival
