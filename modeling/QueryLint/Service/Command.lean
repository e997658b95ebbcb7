import QueryLint.Model.Request
import QueryLint.Service.Request
import QueryLint.Service.Route

/-!
# Commands

What a request to a guarded route asks for, once its body or query has been checked.
-/

namespace QueryLint

/-- A checked request. -/
inductive Command where
  | analyze (text : String)
  | summarize (text : String)
  | openDocument (request : OpenRequest)
  | changeDocument (request : ChangeRequest)
  | focusDocument (uri : String)
  | closeDocument (uri : String)
  | diagnostics (uri : String)
  | detect
deriving DecidableEq, Repr

namespace Command

/-- The route that a command came by. -/
def route : Command → GuardedRoute
  | analyze _ => .analyze
  | summarize _ => .summarize
  | openDocument _ => .openDocument
  | changeDocument _ => .changeDocument
  | focusDocument _ => .focusDocument
  | closeDocument _ => .closeDocument
  | diagnostics _ => .diagnostics
  | detect => .detect

/-- The text whose length is limited. -/
def text? : Command → Option String
  | analyze t => some t
  | summarize t => some t
  | openDocument r => some r.text
  | changeDocument r => some r.text
  | _ => none

/-- Checks a body.  A body that is no object at all has an issue of its own. -/
def checkBody {α : Type} (check : Json → Check α) (payload : Payload) : Check α :=
  Check.under (.field "body") <|
    match payload with
    | .absent => .fail .missing .null
    | .malformed => .fail .malformed (.obj [])
    | .value (.obj fields) => check (.obj fields)
    | .value j => .fail .bodyNotAnObject j
    | .foreign | .unreadable => .fail .bodyNotAnObject .null

/-- Checks the query parameter that names a document. -/
def checkQuery (r : Request) : Check String :=
  Check.under (.field "query") <| Check.under (.field "uri") <|
    match r.parameter? "uri" with
    | some uri => .ok uri
    | none => .fail .missing .null

/-- What a request to the route asks for. -/
def ofRequest (route : GuardedRoute) (r : Request) : Check Command :=
  match route with
  | .analyze => (checkBody TextRequest.check r.payload).map fun b => analyze b.text
  | .summarize => (checkBody TextRequest.check r.payload).map fun b => summarize b.text
  | .openDocument => (checkBody OpenRequest.check r.payload).map openDocument
  | .changeDocument => (checkBody ChangeRequest.check r.payload).map changeDocument
  | .focusDocument => (checkBody DocumentRef.check r.payload).map fun b => focusDocument b.uri
  | .closeDocument => (checkBody DocumentRef.check r.payload).map fun b => closeDocument b.uri
  | .diagnostics => (checkQuery r).map diagnostics
  | .detect => .ok detect

end Command

end QueryLint
