/-!
# Routes

The paths that the service answers, each under one method.  A line feed at the end of a path does
not matter.
-/

namespace QueryLint

/-- A route that needs an API key if the settings require one. -/
inductive GuardedRoute where
  | analyze
  | summarize
  | openDocument
  | changeDocument
  | focusDocument
  | closeDocument
  | diagnostics
  | detect
deriving DecidableEq, Repr

/-- A page that describes the service. -/
inductive HelpPage where
  | schema
  | docs
  | docsRedirect
  | reference
deriving DecidableEq, Repr

/-- A route of the service. -/
inductive Route where
  | health
  | metrics
  | rules
  | help (page : HelpPage)
  | guarded (route : GuardedRoute)
deriving DecidableEq, Repr

namespace Route

/-- All routes. -/
def all : List Route :=
  [help .schema, help .docs, help .docsRedirect, help .reference, health, metrics, rules,
    guarded .analyze, guarded .summarize, guarded .openDocument, guarded .changeDocument,
    guarded .focusDocument, guarded .closeDocument, guarded .diagnostics, guarded .detect]

/-- The path of a route. -/
def path : Route → String
  | health => "/api/health"
  | metrics => "/metrics"
  | rules => "/api/rules"
  | help .schema => "/openapi.json"
  | help .docs => "/docs"
  | help .docsRedirect => "/docs/oauth2-redirect"
  | help .reference => "/redoc"
  | guarded .analyze => "/api/analyze"
  | guarded .summarize => "/api/summarize"
  | guarded .openDocument => "/api/documents/open"
  | guarded .changeDocument => "/api/documents/change"
  | guarded .focusDocument => "/api/documents/focus"
  | guarded .closeDocument => "/api/documents/close"
  | guarded .diagnostics => "/api/diagnostics"
  | guarded .detect => "/api/commands/detect-slow-queries"

/-- The method of a route. -/
def method : Route → String
  | health | metrics | rules | help _ | guarded .diagnostics => "GET"
  | guarded _ => "POST"

/-- Whether a route answers a method; the pages also answer a request for their headers. -/
def allows (r : Route) (method : String) : Bool :=
  match r with
  | help _ => method == r.method || method == "HEAD"
  | _ => method == r.method

/-- Whether a path leads to a route. -/
def hasPath (r : Route) (path : String) : Bool :=
  path == r.path || path == r.path ++ "\n"

/-- The route of a path, whatever the method. -/
def ofPath? (path : String) : Option Route :=
  all.find? fun r => r.hasPath path

/-- Whether a path leads to a route once the slashes at its end are gone. -/
def isMoved (path : String) : Bool :=
  let cs := path.toList.reverse
  cs.head? == some '/' &&
    (ofPath? (String.ofList (cs.dropWhile (· == '/')).reverse)).isSome

end Route

namespace GuardedRoute

/-- Whether the route reads a body. -/
def readsBody : GuardedRoute → Bool
  | diagnostics | detect => false
  | _ => true

/-- What the log calls the route. -/
def context : GuardedRoute → String
  | analyze => "analyze endpoint"
  | summarize => "summarize endpoint"
  | openDocument => "open_document"
  | changeDocument => "change_document"
  | focusDocument => "focus_document"
  | closeDocument => "close_document"
  | diagnostics => "get_diagnostics"
  | detect => "detect-slow-queries command"

/-- The label under which failures of the route are counted; some routes do not count them. -/
def errorLabel? : GuardedRoute → Option String
  | analyze => some "analyze"
  | summarize => some "summarize"
  | openDocument => some "document_open"
  | _ => none

/-- Whether requests to the route are limited in number. -/
def isLimited : GuardedRoute → Bool
  | analyze | summarize | openDocument | changeDocument => true
  | _ => false

end GuardedRoute

end QueryLint
