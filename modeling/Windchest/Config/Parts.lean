/-
# Windchest.Config.Parts -- structures in configuration files

A structure is written as a table with its fields by name, or as a list with its fields
in order.  Names that it does not have and items beyond its last field are ignored.
-/
import Windchest.Config.Value

namespace Windchest

set_option autoImplicit false

/-- The fields of a structure as they are written. -/
inductive Parts where
  | named (fields : List (String × Value))
  | ordered (items : List Value)

/-- A field of a structure. -/
structure FieldName where
  name : String
  /-- Its place among the fields. -/
  place : Nat

namespace Parts

/-- The fields that a value writes. -/
def of? : Value → Option Parts
  | .table fields => some (.named fields)
  | .list items => some (.ordered items)
  | _ => none

/-- The value of a field, if it is written. -/
def get? (p : Parts) (f : FieldName) : Option Value :=
  match p with
  | named fields => fields.lookup f.name
  | ordered items => items[f.place]?

variable {α : Type}

/-- A field that has to be there. -/
def required (p : Parts) (f : FieldName) (read : Value → Option α) : Option α := do
  read (← p.get? f)

/-- A field that may be missing.  Nothing is no replacement. -/
def withDefault (p : Parts) (f : FieldName) (default : α) (read : Value → Option α) : Option α :=
  match p.get? f with
  | some v => read v
  | none => some default

/-- A field that may be nothing, and in a table may be missing. -/
def optional (p : Parts) (f : FieldName) (read : Value → Option α) : Option (Option α) :=
  match p.get? f, p with
  | some .null, _ => some none
  | some v, _ => (read v).map some
  | none, named _ => some none
  | none, ordered _ => none

end Parts

end Windchest
