import Switchboard.FileSystem.Tree
import Switchboard.Main
import Switchboard.Proofs.Walk
import Switchboard.Proofs.Blindness
import Switchboard.Proofs.Discipline
import Switchboard.Proofs.Composition
import Switchboard.Proofs.Staging
import Switchboard.Proofs.Summary
import Switchboard.Proofs.Prediction
import Switchboard.Proofs.Accounting
import Switchboard.Proofs.Ending
import Switchboard.Proofs.Foretelling
import Switchboard.Proofs.CopyOnExport
import Switchboard.Proofs.LastExport
import Switchboard.Proofs.Indifference
import Switchboard.Proofs.ExportOrder
import Switchboard.Proofs.Interchange
import Switchboard.Proofs.Reporting
import Switchboard.Proofs.Reach
import Switchboard.Proofs.Coherence
import Switchboard.Proofs.Persistence
import Switchboard.Proofs.GivenExports
import Switchboard.Proofs.Calm
import Switchboard.Proofs.Conduct
import Switchboard.Proofs.Discretion
import Switchboard.Proofs.JsonMode
import Switchboard.Proofs.Pairing
import Switchboard.Proofs.Linkage
import Switchboard.Proofs.Lockstep
import Switchboard.Proofs.Independence
import Switchboard.Proofs.FirstShape
import Switchboard.Proofs.Encoding
import Switchboard.Proofs.Grammar
import Switchboard.Proofs.NormalForm
import Switchboard.Proofs.Rendering
import Switchboard.Proofs.Loading
import Switchboard.Proofs.Documents
import Switchboard.Proofs.Dotted
import Switchboard.Proofs.Inventory
import Switchboard.Proofs.DirectCall
import Switchboard.Proofs.Callback
import Switchboard.Proofs.Adoption
import Switchboard.Proofs.PluginLoading
import Switchboard.Proofs.LastDefinition
import Switchboard.Proofs.Resolution
