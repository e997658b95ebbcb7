import QueryLint.Json.Basic
import QueryLint.Log
import QueryLint.Number.Shortest
import QueryLint.Text.Quoted

/-!
# Events

Notable things that happen in the workspace, each logged on one line: a type, details by name and,
if known, the user.  The values are written as literals, so that no text can break the line or pass
for another value.
-/

namespace QueryLint

namespace Event

mutual

/-- A value as a literal. -/
def literal : Json → String
  | .null => "None"
  | .bool b => if b then "True" else "False"
  | .int n => toString n
  | .decimal d => Layout.plain.render d.toFloat
  | .str t => quotedPoints t.codePoints
  | .arr items => "[" ++ ", ".intercalate (literalItems items) ++ "]"
  | .obj fields => "\x7b" ++ ", ".intercalate (literalFields fields) ++ "\x7d"

/-- The literals of a list of values. -/
def literalItems : List Json → List String
  | [] => []
  | j :: rest => literal j :: literalItems rest

/-- The literals of named values. -/
def literalFields : List (Json.Text × Json) → List String
  | [] => []
  | (key, j) :: rest => (quotedPoints key.codePoints ++ ": " ++ literal j) :: literalFields rest

end

end Event

/-- Something that happened. -/
structure Event where
  kind : Json.Text
  details : Json.Fields
  user : Option Json.Text := none

namespace Event

/-- The field that names the user; a user without a name counts as none. -/
def userFields : Option Json.Text → Json.Fields
  | none => []
  | some name => if name.chars = "" then [] else [("user_id", .str name)]

/-- The event as one value. -/
def record (e : Event) : Json :=
  .obj (("event_type", .str e.kind) :: ("details", .obj e.details) :: userFields e.user)

/-- The log entry of an event. -/
def entry (e : Event) : LogEntry :=
  .message .info .failures ("Analysis event: " ++ literal e.record)

end Event

end QueryLint
