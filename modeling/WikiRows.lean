import WikiRows.Main
import WikiRows.Proofs.Agreement
import WikiRows.Proofs.Carriage
import WikiRows.Proofs.Collisions
import WikiRows.Proofs.Delivery
import WikiRows.Proofs.Spacing
import WikiRows.Proofs.Reprinted
import WikiRows.Proofs.Paths
import WikiRows.Proofs.Constants
import WikiRows.Proofs.Spelling
import WikiRows.Proofs.Stored
import WikiRows.Proofs.Declared
import WikiRows.Proofs.Checks
import WikiRows.Proofs.Shapes
import WikiRows.Proofs.WireNames
import WikiRows.Proofs.Tokens
import WikiRows.Proofs.Writes
import WikiRows.Proofs.Relayed
import WikiRows.Proofs.ByteOrder
import WikiRows.Proofs.Parts
import WikiRows.Proofs.Selections
import WikiRows.Proofs.Overwriting
import WikiRows.Proofs.Reordering
import WikiRows.Proofs.WholeRows
import WikiRows.Proofs.RecordFields
import WikiRows.Proofs.Twins
import WikiRows.Proofs.OpenTags
