import RestQuery.Table
import RestQuery.Text.Letter
import RestQuery.Text.Mark
import RestQuery.Text.Unprintable
import RestQuery.Text.Blank
import RestQuery.Text.Split
import RestQuery.Text.Case
import RestQuery.Text.Quoted
import RestQuery.Binary64.Shortest
import RestQuery.Json.Value
import RestQuery.Catalog.Basic
import RestQuery.Catalog.Reader
import RestQuery.Catalog.Writer
import RestQuery.Catalog.Resolve
import RestQuery.Catalog.Removal
import RestQuery.Request.Key
import RestQuery.Request.Routing
import RestQuery.Calendar.Reader
import RestQuery.Calendar.Writer
import RestQuery.Uuid
import RestQuery.Plan.Json
import RestQuery.Filter.Compile
import RestQuery.Order
import RestQuery.Projection
import RestQuery.Response
import RestQuery.Sql.Query
import RestQuery.Proofs.Catalog.Integrity
import RestQuery.Proofs.Catalog.RoundTrip
import RestQuery.Proofs.Filter.Clauses
import RestQuery.Proofs.Request.Routing
import RestQuery.Proofs.Plan.Levels
import RestQuery.Proofs.Plan.Authority
import RestQuery.Proofs.Answer
import RestQuery.Proofs.Sql.Masking
import RestQuery.Proofs.Sql.Bindings
import RestQuery.Proofs.Sql.Literals
import RestQuery.Proofs.Sql.Placeholders
import RestQuery.Proofs.Plan.Columns
import RestQuery.Proofs.Sql.References
import RestQuery.Proofs.Plan.Depth
import RestQuery.Proofs.Plan.Effects
import RestQuery.Proofs.Plan.Origins
import RestQuery.Proofs.Plan.Rejections
import RestQuery.Proofs.Plan.Siblings
import RestQuery.Proofs.Plan.Spellings
import RestQuery.Proofs.Plan.Selection
import RestQuery.Proofs.Plan.Defaults
import RestQuery.Proofs.Plan.Pages
import RestQuery.Proofs.Plan.Orders
import RestQuery.Proofs.Plan.Visibility
import RestQuery.Proofs.Sql.Outputs
import RestQuery.Proofs.Plan.Unknown
import RestQuery.Proofs.Plan.Disabled
import RestQuery.Proofs.Sql.Identifiers
import RestQuery.Proofs.Request.Leaves
import RestQuery.Proofs.Plan.Collisions
import RestQuery.Proofs.Plan.Subjects
import RestQuery.Proofs.Request.Conservation
import RestQuery.Proofs.Filter.Forms
import RestQuery.Proofs.Uuid
import RestQuery.Proofs.Filter.Elements
import RestQuery.Proofs.Filter.Rules
import RestQuery.Proofs.Filter.Sets
import RestQuery.Proofs.Sql.Patterns
import RestQuery.Proofs.Projection.Mentions
import RestQuery.Proofs.Sql.Correlations
import RestQuery.Proofs.Plan.Declared
import RestQuery.Proofs.Filter.Numbers
import RestQuery.Proofs.Order.Written
import RestQuery.Proofs.Plan.Removals
import RestQuery.Proofs.Plan.Precedence
import RestQuery.Proofs.Filter.Identifiers
import RestQuery.Proofs.Calendar.Days
import RestQuery.Proofs.Calendar.Written
import RestQuery.Proofs.Sql.Timestamps
import RestQuery.Proofs.Plan.Additions
import RestQuery.Proofs.Plan.SameLevel
import RestQuery.Proofs.Request.Pairs
import RestQuery.Proofs.Request.Conventions
import RestQuery.Proofs.Request.Idempotence
import RestQuery.Proofs.Sql.Quoting
