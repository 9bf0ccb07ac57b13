import RestQuery.Plan.Compile
import RestQuery.Plan.Json

/-!
# Answers to requests

A request is answered with its plan, or refused: because of a fault of the catalog, because
there is no such resource, or because of problems in the request itself.
-/

namespace RestQuery

inductive Refusal where
  | catalog (error : CatalogError)
  | notFound (resource : String)
  | invalid (errors : List RequestError)
  deriving DecidableEq

namespace Refusal

def status : Refusal → Nat
  | catalog _ => 500
  | notFound _ => 404
  | invalid _ => 400

def code : Refusal → String
  | catalog _ => "config_error"
  | notFound _ => "not_found"
  | invalid _ => "invalid_request"

def message : Refusal → String
  | catalog error => error.message
  | notFound name => "not found: " ++ name
  | invalid errors => "invalid request: " ++ Nat.repr errors.length ++ " problem(s)"

/-- The body of the response; problems of the request are listed one by one. -/
def body (refusal : Refusal) : Json :=
  let details := match refusal with
    | invalid errors => [("details", Json.strings (errors.map RequestError.text))]
    | _ => []
  .object
    [("error", .object
      ([("code", .string refusal.code)] ++ details ++ [("message", .string refusal.message)]))]

end Refusal

def Plan.accept (plan : Plan) : Except Refusal Plan :=
  if plan.errors.isEmpty then .ok plan else .error (.invalid plan.errors)

def Catalog.answer (catalog : Catalog) (resource : String) (target : Target) (params : Params) :
    Except Refusal Plan := do
  let plan ← (catalog.plan resource target params).mapError .catalog
  plan.accept

/-- The answer to a request whose resource may be unknown. -/
def Catalog.answerIfKnown (catalog : Catalog) (resource : String) (target : Target)
    (params : Params) : Except Refusal Plan :=
  if catalog.resources.contains resource then catalog.answer resource target params
  else .error (.notFound resource)

end RestQuery
