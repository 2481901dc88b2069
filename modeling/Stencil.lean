import Stencil.Main
import Stencil.Proofs.CommandLine.Footprint
import Stencil.Proofs.Files.Templates
import Stencil.Proofs.Filters.Dates
import Stencil.Proofs.Filters.Money
import Stencil.Proofs.Filters.Tags
import Stencil.Proofs.Filters.WordBoundaries
import Stencil.Proofs.Service.FrontEnds
import Stencil.Proofs.Session.History
import Stencil.Proofs.Template.Comments
import Stencil.Proofs.Template.Escapes
import Stencil.Proofs.Template.FilterArguments
import Stencil.Proofs.Template.Indentation
import Stencil.Proofs.Template.Introspection
import Stencil.Proofs.Template.LiteralPlaces
import Stencil.Proofs.Template.Misreading
import Stencil.Proofs.Template.Negation
import Stencil.Proofs.Template.OperatorLaws
import Stencil.Proofs.Template.Rendering
import Stencil.Proofs.Template.SelfContained
import Stencil.Proofs.Template.TrimmedBlocks
import Stencil.Proofs.Value.Enumeration
import Stencil.Service.Routes
import Stencil.Session
