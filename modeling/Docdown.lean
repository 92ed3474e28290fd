import Docdown.Main
import Docdown.Proofs.Xml.Grammar
import Docdown.Proofs.Xml.Appending
import Docdown.Proofs.Truncation
import Docdown.Proofs.Xml.Diagnostics
import Docdown.Proofs.Xml.WellFormed
import Docdown.Proofs.Xml.Printing
import Docdown.Proofs.Path.Joining
import Docdown.Proofs.FileTree.Places
import Docdown.Proofs.Run.Steps
import Docdown.Proofs.Run.Confinement
import Docdown.Proofs.Run.Effect
import Docdown.Proofs.Glob.Found
import Docdown.Proofs.Doc.Rewriting
import Docdown.Proofs.Run.Coherence
import Docdown.Proofs.Run.Pages
import Docdown.Proofs.Run.Repeating
import Docdown.Proofs.Run.Verbosity
import Docdown.Proofs.Markdown.ReturnTypes
import Docdown.Proofs.Doc.Definitions
import Docdown.Proofs.Markdown.Table
import Docdown.Proofs.Markdown.Anchors
import Docdown.Proofs.Markdown.Prose
import Docdown.Proofs.Markdown.EmptyPage
import Docdown.Proofs.Markdown.Listings
import Docdown.Proofs.Xml.Building
import Docdown.Proofs.Config.Resolution
import Docdown.Proofs.Run.Groups
