import Docket.Expression.Evaluate
import Docket.Field.Definition

/-! Passes over fields: each value is published for the fields after it. -/

namespace Docket

/-- What a pass works on: the variables, the document, and what functions may change. -/
structure Desk where
  bindings : Variables
  document : Document
  resources : Resources

namespace Desk

/-- Publishes the value of a field. -/
def publish (desk : Desk) (name value : Text) (resources : Resources) : Desk :=
  ⟨desk.bindings.put name value, desk.document.put name value, resources⟩

/-- The value of a field at a time; an empty expression has an empty value. -/
def fieldValue (engine : Engine) (now : Instant) (field : Field) (desk : Desk) :
    Text × Resources :=
  if field.expression.isEmpty then ([], desk.resources)
  else engine.evaluate now desk.bindings field.formula desk.resources

/-- Evaluates a field and publishes its value. -/
def evaluateField (engine : Engine) (now : Instant) (desk : Desk) (field : Field) : Desk :=
  let (value, resources) := desk.fieldValue engine now field
  desk.publish field.name value resources

/-- Evaluates every field once, in order, all at the same time. -/
def pass (engine : Engine) (now : Instant) (fields : List Field) (desk : Desk) : Desk :=
  fields.foldl (evaluateField engine now) desk

/-- Evaluates every field once, for a new document. -/
def passAnew (engine : Engine) (now : Instant) (fields : List Field) (desk : Desk) : Desk :=
  pass engine now fields { desk with document := .empty }

end Desk

end Docket
