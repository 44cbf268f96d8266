import SourceOutline.Import.Text
import SourceOutline.Json.Reader
import SourceOutline.Json.Writer
import SourceOutline.Proofs.Accumulation
import SourceOutline.Proofs.DefaultExports
import SourceOutline.Proofs.RoundTrip
import SourceOutline.Resource.Json
import SourceOutline.Tree.Listing
import SourceOutline.Workspace
import SourceOutline.Proofs.ImportText
import SourceOutline.Proofs.Shapes
import SourceOutline.Proofs.Bare
import SourceOutline.Proofs.Comments
import SourceOutline.Proofs.Spans
import SourceOutline.Proofs.Spellings
import SourceOutline.Proofs.Flattening
import SourceOutline.Proofs.ImportGrammar
import SourceOutline.Proofs.ImportOrder
import SourceOutline.Proofs.LiteralTypes
import SourceOutline.Proofs.Locals
import SourceOutline.Proofs.Promotion
import SourceOutline.Proofs.Below
import SourceOutline.Proofs.Identifiers
import SourceOutline.Proofs.Modifiers
import SourceOutline.Proofs.Forms
import SourceOutline.Proofs.RecordReading
import SourceOutline.Proofs.Rewriting
import SourceOutline.Proofs.Settings
import SourceOutline.Proofs.Slices
