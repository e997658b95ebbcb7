import QueryLint.Json.Basic

/-!
# Checked values

Reading a value can go wrong in several places at once.  A check gives either the value or the list
of everything that is wrong, each with the path to it and the value found there; checks of several
parts collect their issues in the order of the parts.
-/

namespace QueryLint

/-- What is wrong with a value. -/
inductive IssueKind where
  | missing
  | notAnObject
  | bodyNotAnObject
  | notAList
  | notAText
  | brokenText
  | emptyText
  | notAnInteger
  | fractionalInteger
  | unreadableInteger
  | oversizedInteger
  | notFinite
  | negative
  | notABoolean
  | unreadableBoolean
  | notAllowed
  | malformed
deriving DecidableEq, Repr

namespace IssueKind

/-- The code by which a client knows the kind. -/
def code : IssueKind → String
  | missing => "missing"
  | notAnObject => "model_type"
  | bodyNotAnObject => "model_attributes_type"
  | notAList => "list_type"
  | notAText => "string_type"
  | brokenText => "string_unicode"
  | emptyText => "string_too_short"
  | notAnInteger => "int_type"
  | fractionalInteger => "int_from_float"
  | unreadableInteger => "int_parsing"
  | oversizedInteger => "int_parsing_size"
  | notFinite => "finite_number"
  | negative => "greater_than_equal"
  | notABoolean => "bool_type"
  | unreadableBoolean => "bool_parsing"
  | notAllowed => "literal_error"
  | malformed => "json_invalid"

/-- What a client is told about the kind. -/
def message : IssueKind → String
  | missing => "Field required"
  | notAnObject => "Input should be a valid dictionary"
  | bodyNotAnObject => "Input should be a valid dictionary or object to extract fields from"
  | notAList => "Input should be a valid list"
  | notAText => "Input should be a valid string"
  | brokenText =>
    "Input should be a valid string, unable to parse raw data as a unicode string"
  | emptyText => "String should have at least 1 character"
  | notAnInteger => "Input should be a valid integer"
  | fractionalInteger => "Input should be a valid integer, got a number with a fractional part"
  | unreadableInteger => "Input should be a valid integer, unable to parse string as an integer"
  | oversizedInteger => "Unable to parse input string as an integer, exceeded maximum size"
  | notFinite => "Input should be a finite number"
  | negative => "Input should be greater than or equal to 0"
  | notABoolean => "Input should be a valid boolean"
  | unreadableBoolean => "Input should be a valid boolean, unable to interpret input"
  | notAllowed => "Input should be one of the allowed values"
  | malformed => "JSON decode error"

/-- The limit that a value missed, by its name. -/
def limit? : IssueKind → Option (String × Json)
  | emptyText => some ("min_length", .int 1)
  | negative => some ("ge", .int 0)
  | _ => none

end IssueKind

/-- A step from a value to one of its parts. -/
inductive PathStep where
  | field (name : String)
  | item (index : Nat)
deriving DecidableEq, Repr

/-- Something wrong, where, and the value found there; for a missing field, the value in which it is
missing. -/
structure Issue where
  kind : IssueKind
  path : List PathStep
  input : Json
deriving Repr

namespace Issue

/-- The same issue seen from one step further out. -/
def under (step : PathStep) (issue : Issue) : Issue :=
  { issue with path := step :: issue.path }

end Issue

/-- A value, or all that is wrong with it. -/
inductive Check (α : Type) where
  | ok (value : α)
  | bad (issues : List Issue)
deriving Repr

namespace Check

variable {α β : Type}

/-- A check of a value that fails for one reason. -/
def fail (kind : IssueKind) (input : Json) : Check α :=
  bad [⟨kind, [], input⟩]

/-- Changes a good value. -/
def map (f : α → β) : Check α → Check β
  | ok a => ok (f a)
  | bad issues => bad issues

/-- Goes on with a good value. -/
def bind (c : Check α) (f : α → Check β) : Check β :=
  match c with
  | ok a => f a
  | bad issues => bad issues

/-- Two checks side by side: the issues of both are collected. -/
def both (a : Check α) (b : Check β) : Check (α × β) :=
  match a, b with
  | ok x, ok y => ok (x, y)
  | ok _, bad issues => bad issues
  | bad issues, ok _ => bad issues
  | bad issues, bad issues' => bad (issues ++ issues')

/-- A check of a part: its issues are reported with the path from the whole. -/
def under (step : PathStep) : Check α → Check α
  | ok a => ok a
  | bad issues => bad (issues.map (Issue.under step))

/-- Checks the items of a list, the first of them being number `index`. -/
def items (check : β → Check α) : (index : Nat) → List β → Check (List α)
  | _, [] => ok []
  | index, b :: rest =>
    ((check b).under (.item index)).both (items check (index + 1) rest)
      |>.map fun (a, as) => a :: as

end Check

end QueryLint
