import QueryLint.Schema.Scalar

/-!
# Checks of objects

An object is checked field by field.  A field is known by the name that clients use and, in some
objects, also by the name used inside; the client's name wins where both are given.  Issues are
reported under the name that the object has, and those of a missing field under the client's name.
Unknown fields are ignored.
-/

namespace QueryLint

/-- The two names of a field. -/
structure FieldName where
  /-- The name that clients use. -/
  wire : String
  /-- The name used inside. -/
  plain : String := wire
deriving DecidableEq, Repr

/-- Which of the two names of a field is written. -/
inductive Naming where
  | wire
  | plain
deriving DecidableEq, Repr

namespace FieldName

/-- A field with the same name on both sides. -/
def same (name : String) : FieldName := ⟨name, name⟩

/-- The name to be written. -/
def under (name : FieldName) : Naming → String
  | .wire => name.wire
  | .plain => name.plain

end FieldName

namespace Schema

/-- The fields of an object. -/
abbrev Fields := Json.Fields

/-- An object. -/
def object : Json → Check Fields
  | .obj fields => .ok fields
  | j => .fail .notAnObject j

/-- The value of a field under either of its names, with the name under which it stands. -/
def lookup (fields : Fields) (name : FieldName) : Option (String × Json) :=
  match Json.fieldOf fields name.wire with
  | some j => some (name.wire, j)
  | none => (Json.fieldOf fields name.plain).map fun j => (name.plain, j)

/-- A field that has to be there. -/
def required {α : Type} (name : FieldName) (check : Json → Check α) (fields : Fields) : Check α :=
  match lookup fields name with
  | some (found, j) => Check.under (.field found) (check j)
  | none => Check.under (.field name.wire) (.fail .missing (.obj fields))

/-- A field that may be left out. -/
def optional {α : Type} (name : FieldName) (default : α) (check : Json → Check α)
    (fields : Fields) : Check α :=
  match lookup fields name with
  | some (found, j) => Check.under (.field found) (check j)
  | none => .ok default

/-- A list. -/
def list {α : Type} (check : Json → Check α) : Json → Check (List α)
  | .arr items => Check.items check 0 items
  | j => .fail .notAList j

end Schema

end QueryLint
