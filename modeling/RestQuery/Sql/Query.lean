import RestQuery.Sql.Build
import RestQuery.Sql.Text

/-!
# From plans to queries

The query for a plan, and the query for the one row of a plan that has a key.
-/

namespace RestQuery

/-- The query for a plan, restricted to the row with a key if one is given. -/
def Catalog.query (catalog : Catalog) (plan : Plan) (key : Option String) :
    Except CatalogError Sql.Query := do
  let select ← Sql.select catalog plan key.isSome
  return .ofPieces key select.pieces

end RestQuery
