import LocaleFamilies.Json.Reading
import LocaleFamilies.Text.Quoted

/-! Values of a known shape from the reading of a document. The parts are taken in the order in which
they are written, so of several faults the first one in the text is reported, be it a part of the
wrong shape or a place where the text is no document. -/
namespace LocaleFamilies.Json

inductive Problem
  | malformed
  | wrongType (found expected : String)
  | wrongLength (count : Nat) (expected : String)
  | duplicateField (name : String)
  | missingField (name : String)
  | unknownVariant (name : String) (known : List String)
  deriving DecidableEq, Repr

def marked (name : String) : String := "`" ++ name ++ "`"

def Problem.message : Problem → String
  | .malformed => "<json syntax>"
  | .wrongType found expected => "invalid type: " ++ found ++ ", expected " ++ expected
  | .wrongLength count expected =>
    "invalid length " ++ toString count ++ ", expected " ++ expected
  | .duplicateField name => "duplicate field " ++ marked name
  | .missingField name => "missing field " ++ marked name
  | .unknownVariant name known =>
    "unknown variant " ++ marked name ++ ", expected " ++ " or ".intercalate (known.map marked)

def Reading.description : Reading → Except Problem String
  | .broken => .error .malformed
  | .null => .ok "null"
  | .truth value => .ok ("boolean " ++ marked (toString value))
  | .number numeral =>
    match numeral.description? with
    | some description => .ok description
    | none => .error .malformed
  | .string (some text) => .ok ("string " ++ Text.quoted text)
  | .string none => .error .malformed
  | .list _ _ => .ok "sequence"
  | .object _ _ => .ok "map"

def mismatch {α : Type} (expected : String) (reading : Reading) : Except Problem α := do
  let found ← reading.description
  throw (.wrongType found expected)

mutual
/-- Whether a value is written without fault, whatever it is. -/
def Reading.isSound : Reading → Bool
  | .broken => false
  | .list items closed => areSound items && closed
  | .object fields closed => areSoundFields fields && closed
  | _ => true

def areSound : List Reading → Bool
  | [] => true
  | item :: rest => item.isSound && areSound rest

def areSoundFields : List (Reading × Reading) → Bool
  | [] => true
  | (key, value) :: rest => key.isSound && value.isSound && areSoundFields rest
end

def text : Reading → Except Problem String
  | .string (some text) => .ok text
  | reading => mismatch "a string" reading

def list {α : Type} (item : Reading → Except Problem α) : Reading → Except Problem (List α)
  | .list items closed => do
    let values ← items.mapM item
    if closed then return values else throw .malformed
  | reading => mismatch "a sequence" reading

def optional {α : Type} (item : Reading → Except Problem α) : Reading → Except Problem (Option α)
  | .null => .ok none
  | reading => some <$> item reading

def key : Reading → Except Problem String
  | .string (some name) => .ok name
  | _ => .error .malformed

def entries {α : Type} (item : Reading → Except Problem α) :
    Reading → Except Problem (List (String × α))
  | .object fields closed => do
    let values ← fields.mapM fun field => do
      let name ← key field.1
      let value ← item field.2
      return (name, value)
    if closed then return values else throw .malformed
  | reading => mismatch "a map" reading

def once {α : Type} (name : String) (slot : Option α) (item : Reading → Except Problem α)
    (reading : Reading) : Except Problem (Option α) :=
  if slot.isSome then throw (.duplicateField name) else some <$> item reading

def skipped {α : Type} (state : α) (reading : Reading) : Except Problem α :=
  if reading.isSound then .ok state else .error .malformed

/-- The shape of a record: its name, its fields in order, how a field is taken, and how the fields
taken become a value, given the problem that a missing one is. -/
structure Shape (σ α : Type) where
  name : String
  fields : List String
  start : σ
  take : σ → String → Reading → Except Problem σ
  finish : (String → Problem) → σ → Except Problem α

def Shape.decode {σ α : Type} (shape : Shape σ α) : Reading → Except Problem α
  | .object fields closed => do
    let state ← fields.foldlM (fun state field => do
      let name ← key field.1
      shape.take state name field.2) shape.start
    if closed then shape.finish .missingField state else throw .malformed
  | .list items closed => do
    let state ← (shape.fields.zip items).foldlM (fun state (name, item) =>
      shape.take state name item) shape.start
    if items.length < shape.fields.length && !closed then throw .malformed
    let value ← shape.finish (fun _ => .wrongLength items.length
      (shape.name ++ " with " ++ toString shape.fields.length ++ " elements")) state
    if items.length > shape.fields.length || !closed then throw .malformed
    return value
  | reading => mismatch shape.name reading

def decode {α : Type} (item : Reading → Except Problem α) (text : List Char) :
    Except Problem α := do
  let document := Document.read text
  let value ← item document.root
  if document.ended then return value else throw .malformed

end LocaleFamilies.Json
