import ApiGraph.Main
import ApiGraph.Proofs.Graph.Contents
import ApiGraph.Proofs.Schema.Expansion
import ApiGraph.Proofs.Validation.Sufficiency
import ApiGraph.Proofs.Validation.Acceptance
import ApiGraph.Proofs.Legacy.Definitions
import ApiGraph.Proofs.Legacy.Parameters
import ApiGraph.Proofs.Legacy.Grammar
import ApiGraph.Proofs.Legacy.MediaTypes
import ApiGraph.Proofs.Validation.References
import ApiGraph.Proofs.Legacy.References
import ApiGraph.Proofs.Graph.Hierarchy
import ApiGraph.Proofs.Graph.Outline
import ApiGraph.Proofs.Graph.Independence
import ApiGraph.Proofs.Validation.Locations
import ApiGraph.Proofs.Validation.Definedness
import ApiGraph.Proofs.Validation.Structure
import ApiGraph.Proofs.Legacy.Entries
import ApiGraph.Proofs.Graph.Inheritance
import ApiGraph.Proofs.Legacy.Forms
import ApiGraph.Proofs.Legacy.Files
import ApiGraph.Proofs.Legacy.Required
import ApiGraph.Proofs.Legacy.Frame
import ApiGraph.Proofs.Schema.Printing
import ApiGraph.Proofs.Schema.Order
import ApiGraph.Proofs.Validation.Locality
import ApiGraph.Proofs.Reference.Bare
import ApiGraph.Proofs.Reference.RoundTrip
import ApiGraph.Proofs.Graph.Naming
import ApiGraph.Proofs.Graph.StaticPath
import ApiGraph.Proofs.Yaml.Conversion
