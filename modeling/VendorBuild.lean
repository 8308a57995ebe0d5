import VendorBuild.Text.Ranges
import VendorBuild.Text.Alphabetic
import VendorBuild.Text.Numeric
import VendorBuild.Text.Blank
import VendorBuild.Text.Invisible
import VendorBuild.Text.Lowercase
import VendorBuild.Text.Quoted
import VendorBuild.Text.Utf8
import VendorBuild.Text.Pieces
import VendorBuild.Text.Raw
import VendorBuild.Names.Map
import VendorBuild.Path
import VendorBuild.Source.Lexeme
import VendorBuild.Source.Token
import VendorBuild.Source.Header
import VendorBuild.Label
import VendorBuild.Plan
import VendorBuild.Storage.Basic
import VendorBuild.Storage.Flat
import VendorBuild.Package.Directory
import VendorBuild.Package.Discovery
import VendorBuild.BuildFile
import VendorBuild.Log.Record
import VendorBuild.Run
import VendorBuild.Storage.Linked
import VendorBuild.Inventory
import VendorBuild.Options
import VendorBuild.Log.Json
import VendorBuild.Program
import VendorBuild.Main
import VendorBuild.Proofs.Numerals
import VendorBuild.Proofs.Literals
import VendorBuild.Proofs.Quoting
import VendorBuild.Proofs.Places
import VendorBuild.Proofs.Scanned
import VendorBuild.Proofs.Emission
import VendorBuild.Proofs.Declared
import VendorBuild.Proofs.Lines
import VendorBuild.Proofs.Labels
import VendorBuild.Proofs.Listings
import VendorBuild.Proofs.Acceptance
import VendorBuild.Proofs.Grammar
import VendorBuild.Proofs.Lexemes
import VendorBuild.Proofs.Spelling
import VendorBuild.Proofs.Stepwise
import VendorBuild.Proofs.Delimiters
import VendorBuild.Proofs.Comments
import VendorBuild.Proofs.LineEndings
import VendorBuild.Proofs.Body
import VendorBuild.Proofs.Gathering
import VendorBuild.Proofs.Sources
import VendorBuild.Proofs.Survey
import VendorBuild.Proofs.Dependence
import VendorBuild.Proofs.Regeneration
import VendorBuild.Proofs.Influence
import VendorBuild.Proofs.Printed
import VendorBuild.Proofs.Faults
import VendorBuild.Proofs.Events
import VendorBuild.Proofs.Preservation
import VendorBuild.Proofs.Trees
import VendorBuild.Proofs.Population
import VendorBuild.Proofs.Lookup
import VendorBuild.Proofs.Agreement
import VendorBuild.Proofs.Planning
import VendorBuild.Proofs.Positions
import VendorBuild.Proofs.LineBreaks
import VendorBuild.Proofs.Placement
import VendorBuild.Proofs.Boundaries
import VendorBuild.Proofs.Verbatim
import VendorBuild.Proofs.Growth
import VendorBuild.Proofs.Lowering
import VendorBuild.Proofs.Levels
import VendorBuild.Proofs.Clashes
