import CosmeticFilter.Config
import CosmeticFilter.Css.Sheet
import CosmeticFilter.Document.Change
import CosmeticFilter.Document.Page
import CosmeticFilter.Engine.Call
import CosmeticFilter.Engine.Driving
import CosmeticFilter.Evaluation.Items
import CosmeticFilter.Proofs.Acceptance
import CosmeticFilter.Proofs.Boundaries
import CosmeticFilter.Proofs.ChainedHas
import CosmeticFilter.Proofs.Coalescing
import CosmeticFilter.Proofs.Confinement
import CosmeticFilter.Proofs.Containing
import CosmeticFilter.Proofs.Convergence
import CosmeticFilter.Proofs.Distance
import CosmeticFilter.Proofs.Driving
import CosmeticFilter.Proofs.Flags
import CosmeticFilter.Proofs.Hiding
import CosmeticFilter.Proofs.Ledger
import CosmeticFilter.Proofs.Lookup
import CosmeticFilter.Proofs.ManyHas
import CosmeticFilter.Proofs.Modes
import CosmeticFilter.Proofs.NestedHas
import CosmeticFilter.Proofs.Orphans
import CosmeticFilter.Proofs.Parentheses
import CosmeticFilter.Proofs.Relative
import CosmeticFilter.Proofs.Reordering
import CosmeticFilter.Proofs.RequestFlow
import CosmeticFilter.Proofs.Rows
import CosmeticFilter.Proofs.Seams
import CosmeticFilter.Proofs.Shadows
import CosmeticFilter.Proofs.SheetPrinting
import CosmeticFilter.Proofs.Strangers
import CosmeticFilter.Proofs.Stylesheets
import CosmeticFilter.Proofs.Tiling
import CosmeticFilter.Proofs.Turns
import CosmeticFilter.Proofs.Verdicts
import CosmeticFilter.Proofs.WakeUps
import CosmeticFilter.Proofs.Wildcards
import CosmeticFilter.Selector.Printer
