import MarcLens.Proofs.Canonical
import MarcLens.Proofs.Catalogue.Reload
import MarcLens.Proofs.Cursor
import MarcLens.Proofs.Draft.Mrk
import MarcLens.Proofs.Harvest.Accounting
import MarcLens.Proofs.Harvest.Positions
import MarcLens.Proofs.Hover.Highlight
import MarcLens.Proofs.Hover.Plain
import MarcLens.Proofs.Hover.Range
import MarcLens.Proofs.Verdict
import MarcLens.Proofs.Workspace
