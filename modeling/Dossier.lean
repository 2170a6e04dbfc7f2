import Dossier.Collection.Aggregate
import Dossier.Collection.Arrange
import Dossier.Collection.Basic
import Dossier.Collection.Edit
import Dossier.Collection.Find
import Dossier.Collection.Group
import Dossier.Collection.Page
import Dossier.Collection.Reshape
import Dossier.Context
import Dossier.Deferred
import Dossier.Entries
import Dossier.Fault
import Dossier.Json.Reader
import Dossier.Json.Tree
import Dossier.Model.Basic
import Dossier.Model.Transform
import Dossier.Model.Walk
import Dossier.Number.Basic
import Dossier.Number.Double
import Dossier.Number.Saturating
import Dossier.Number.Shortest
import Dossier.Path.Access
import Dossier.Path.Syntax
import Dossier.Pattern
import Dossier.Proofs.Collection.Duplicates
import Dossier.Proofs.Deferred.Parity
import Dossier.Proofs.Entries.Sorted
import Dossier.Proofs.Number.Bits
import Dossier.Proofs.Number.Exact
import Dossier.Proofs.Path.Segments
import Dossier.Proofs.Query.Meaning
import Dossier.Proofs.Value.Hash
import Dossier.Proofs.Value.Order
import Dossier.Proofs.Value.WellFormed
import Dossier.Query.Basic
import Dossier.Query.Constraint
import Dossier.Query.Matcher
import Dossier.Query.Operator
import Dossier.Regex.Bracket
import Dossier.Regex.Cursor
import Dossier.Regex.Escape
import Dossier.Regex.Layout
import Dossier.Regex.Program
import Dossier.Regex.Reader
import Dossier.Regex.Room
import Dossier.Regex.Search
import Dossier.Regex.Syntax
import Dossier.Settings
import Dossier.Stage
import Dossier.Text.Age
import Dossier.Text.Boundary
import Dossier.Text.ByteRow
import Dossier.Text.Casing
import Dossier.Text.Category
import Dossier.Text.CharClass
import Dossier.Text.CharSet
import Dossier.Text.Emoji
import Dossier.Text.Folding
import Dossier.Text.Format
import Dossier.Text.Identifier
import Dossier.Text.Ideograph
import Dossier.Text.Inspect
import Dossier.Text.Mark
import Dossier.Text.Property
import Dossier.Text.Runs
import Dossier.Text.Script
import Dossier.Text.Shown
import Dossier.Value.Basic
import Dossier.Value.Hash
import Dossier.Value.Json
import Dossier.Value.Order
import Dossier.Value.Text
import Dossier.Proofs.Path.Lens
import Dossier.Proofs.Path.Frame
import Dossier.Proofs.Query.Binding
import Dossier.Proofs.Value.Alike
import Dossier.Proofs.Query.Respect
import Dossier.Proofs.Query.Reading
import Dossier.Proofs.Collection.Positions
import Dossier.Proofs.Path.Keys
import Dossier.Proofs.Model.Rebuild
import Dossier.Proofs.Model.Example
import Dossier.Proofs.Context.Lineage
import Dossier.Proofs.Value.Json
import Dossier.Proofs.Value.Lookup
import Dossier.Proofs.Model.Merge
import Dossier.Proofs.Model.Difference
import Dossier.Proofs.Model.Patch
import Dossier.Proofs.Path.Portion
import Dossier.Proofs.Collection.Projection
import Dossier.Proofs.Path.Removal
import Dossier.Proofs.Collection.Division
import Dossier.Proofs.Path.Congruence
import Dossier.Proofs.Model.Congruence
import Dossier.Proofs.Collection.Congruence
import Dossier.Proofs.Path.Unset
import Dossier.Proofs.Model.Traversal
import Dossier.Proofs.Model.Addresses
import Dossier.Proofs.Query.Flattening
import Dossier.Proofs.Query.Grammar
import Dossier.Proofs.Query.Spellings
import Dossier.Proofs.Query.Building
import Dossier.Proofs.Collection.Complement
import Dossier.Proofs.Query.Exposure
import Dossier.Proofs.Query.Ranges
import Dossier.Proofs.Number.Rational
import Dossier.Proofs.Order.Stable
import Dossier.Proofs.Collection.Sorting
import Dossier.Proofs.Collection.Extremes
import Dossier.Proofs.Collection.Firsts
import Dossier.Proofs.Collection.Groups
import Dossier.Proofs.Collection.Pages
import Dossier.Proofs.Collection.Splice
import Dossier.Proofs.Collection.Sums
import Dossier.Proofs.Query.Overlay
import Dossier.Proofs.Collection.Forgetting
import Dossier.Proofs.Collection.NumberGroups
import Dossier.Proofs.Deferred.Conditional
