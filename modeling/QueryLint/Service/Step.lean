import QueryLint.Access
import QueryLint.Service.Command
import QueryLint.Service.Response
import QueryLint.Session

/-!
# The service

One request after another: `Service.handle` gives the state after a request, the answer and the log
entries.  A request to a guarded route is checked in a fixed order, and the first check that fails
decides the answer: the body can be read, the API key is right, body or query have the expected
form, the client has not sent too many requests, the text is not too long.  Only then the operation
runs.
-/

namespace QueryLint

/-- The operations of a session that a request can start. -/
inductive Operation where
  | analyzeText
  | summarizeText
  | detect
  | onOpened
  | onChanged
deriving DecidableEq, Repr

/-- A failure that strikes an operation from outside, before it has done anything. -/
structure Fault where
  target : Operation
  failure : Failure
deriving DecidableEq, Repr

/-- A request with what the world adds to it: how long the evaluation of the catalog takes, and a
fault that hits it. -/
structure Call where
  request : Request
  seconds : Float := 0.0
  fault : Option Fault := none

/-- The state of the service: the session, and how many requests each client sent to each path of a
limited route.  The limit on this number is settled when the service starts. -/
structure Service where
  session : Session
  counts : Table (String × String) Nat
  limit : RateLimit

/-- What handling a request gives. -/
structure Handled where
  service : Service
  response : Response
  log : List LogEntry

namespace Service

/-- A service before its first request.

The limit is an argument and not taken from the settings.  `Settings.rateLimit` is a text in the
notation of the library that counts requests, and that library reads it when the routes are
declared: settings that change later, as those of `handle` may from request to request, do not move
the limit. -/
def start (limit : RateLimit) : Service where
  session := .new none
  counts := .empty
  limit := limit

/-- A service that starts with the limit that the default settings ask for, `120/minute`. -/
def fresh : Service :=
  start {}

/-- The same service with the session after an operation. -/
def withSession (s : Service) (session : Session) : Service :=
  { s with session := session }

/-- The answer to a failed operation: the failure is logged and, on some routes, counted. -/
def failed (s : Service) (route : GuardedRoute) (f : Failure) : Handled :=
  let (refusal, log) := f.handle (some route.context)
  let metrics := match route.errorLabel? with
    | some label => s.session.metrics.recordError label
    | none => s.session.metrics
  { service := s.withSession { s.session with metrics := metrics }
    response := .refused refusal
    log := log }

/-- The answer to an operation on a route. -/
def finish {α : Type} (s : Service) (route : GuardedRoute)
    (outcome : Except Failure (Outcome α)) (response : Outcome α → Except Failure Response) :
    Handled :=
  match outcome with
  | .error f => s.failed route f
  | .ok o =>
    match response o with
    | .error f =>
      let handled := (s.withSession o.session).failed route f
      { handled with log := o.log ++ handled.log }
    | .ok r => { service := s.withSession o.session, response := r, log := o.log }

/-- The current report on an open document. -/
def documentReport (w : Workspace) (uri : String) : Except Failure Response := do
  let d ← w.find uri
  return .document ⟨uri, d.languageId, d.version, w.diagnostics.get uri⟩

/-- An operation that only touches the workspace. -/
def quiet (s : Session) (w : Except Failure Workspace) : Except Failure (Outcome Unit) :=
  w.map fun w => { session := { s with workspace := w }, value := (), log := [] }

/-- The result of an operation, unless a fault hits it. -/
def unlessFault {α : Type} (fault : Option Fault) (target : Operation)
    (outcome : Except Failure (Outcome α)) : Except Failure (Outcome α) :=
  match fault with
  | some f => if f.target = target then .error f.failure else outcome
  | none => outcome

/-- Runs a command. -/
def run (settings : Settings) (seconds : Float) (fault : Option Fault) (s : Service)
    (command : Command) : Handled :=
  let session := s.session
  match command with
  | .analyze text =>
    s.finish .analyze (unlessFault fault .analyzeText (.ok (session.analyzeText seconds text)))
      fun o => .ok (.findings (.ofFindings o.value))
  | .summarize text =>
    s.finish .summarize
      (unlessFault fault .summarizeText (.ok (session.summarizeText seconds text)))
      fun o => .ok (.notification o.value)
  | .openDocument r =>
    s.finish .openDocument
      (unlessFault fault .onOpened
        (.ok (session.onOpened settings seconds r.uri r.languageId (some r.text) r.activate)))
      fun o => documentReport o.session.workspace r.uri
  | .changeDocument r =>
    s.finish .changeDocument
      (unlessFault fault .onChanged (session.onChanged settings seconds r.uri (some r.text)))
      fun o => documentReport o.session.workspace r.uri
  | .focusDocument uri =>
    s.finish .focusDocument (quiet session ((session.workspace.focus uri).map Prod.fst))
      fun o => documentReport o.session.workspace uri
  | .closeDocument uri =>
    s.finish .closeDocument (quiet session (session.workspace.closeDocument uri))
      fun _ => .ok (.closed ⟨uri, true⟩)
  | .diagnostics uri =>
    s.finish .diagnostics (quiet session (.ok session.workspace))
      fun o => documentReport o.session.workspace uri
  | .detect =>
    s.finish .detect (unlessFault fault .detect (session.detect seconds))
      fun o => .ok (.notification o.value)

/-- Counts a request to a limited route and says whether it is one too many.  Requests are counted
for each client and each spelling of the path. -/
def countRequest (s : Service) (r : Request) (route : GuardedRoute) : Service × Bool :=
  if route.isLimited then
    let key := (r.address, r.path)
    let counts := s.counts.adjust key 0 (· + 1)
    ({ s with counts := counts }, s.limit.amount < (counts.get? key).getD 0)
  else (s, false)

/-- Handles a checked request: the number of requests, then the length of the text, then the
operation. -/
def accept (settings : Settings) (call : Call) (s : Service) (command : Command) : Handled :=
  let (s, tooMany) := s.countRequest call.request command.route
  if tooMany then { service := s, response := .tooMany s.limit, log := [] }
  else
    match command.text? with
    | none => run settings call.seconds call.fault s command
    | some text =>
      match checkLength (some text) settings.maxDocumentLength with
      | .error refusal => { service := s, response := .refused refusal, log := [] }
      | .ok () => run settings call.seconds call.fault s command

/-- The answer to a body that cannot be read, on routes that read one. -/
def bodyRefusal? (route : GuardedRoute) (r : Request) : Option Response :=
  if route.readsBody then
    match r.payload with
    | .malformed => some (.invalid [⟨.malformed, [.field "body"], .obj []⟩])
    | .unreadable => some (.refused ⟨400, "There was an error parsing the body"⟩)
    | _ => none
  else none

/-- Handles a request to a guarded route. -/
def handleGuarded (settings : Settings) (call : Call) (s : Service) (route : GuardedRoute) :
    Handled :=
  match bodyRefusal? route call.request with
  | some response => { service := s, response := response, log := [] }
  | none =>
    match checkAccess settings call.request.apiKey? with
    | .error e => { service := s, response := .refused e.refusal, log := e.log }
    | .ok () =>
      match Command.ofRequest route call.request with
      | .bad issues => { service := s, response := .invalid issues, log := [] }
      | .ok command => accept settings call s command

/-- Handles a request. -/
def handle (s : Service) (settings : Settings) (call : Call) : Handled :=
  match Route.ofPath? call.request.path with
  | none =>
    let response := if Route.isMoved call.request.path then .moved else .unknownPath
    { service := s, response := response, log := [] }
  | some route =>
    if !route.allows call.request.method then
      { service := s, response := .wrongMethod, log := [] }
    else
      match route with
      | .health => { service := s, response := .health s.session.metrics, log := [] }
      | .metrics => { service := s, response := .exposition s.session.metrics, log := [] }
      | .rules => { service := s, response := .rules (catalog.map .ofRule), log := [] }
      | .help _ => { service := s, response := .page, log := [] }
      | .guarded route => handleGuarded settings call s route

/-- Handles requests one after another. -/
def handleAll (s : Service) (settings : Settings) : List Call → List Handled
  | [] => []
  | call :: rest =>
    let handled := s.handle settings call
    handled :: handled.service.handleAll settings rest

/-- The service after requests. -/
def replay (s : Service) (settings : Settings) (calls : List Call) : Service :=
  calls.foldl (fun s call => (s.handle settings call).service) s

@[simp]
theorem replay_nil (settings : Settings) (s : Service) : s.replay settings [] = s := rfl

@[simp]
theorem replay_cons (settings : Settings) (s : Service) (call : Call) (calls : List Call) :
    s.replay settings (call :: calls) = (s.handle settings call).service.replay settings calls :=
  rfl

/-- What the service logs when it starts. -/
def startLog : List LogEntry :=
  [.message .info .service
    ("Starting slow query detector with " ++ toString catalog.length ++ " rules...")]

/-- What the service logs when it stops. -/
def stopLog : List LogEntry :=
  [.message .info .service "Shutting down slow query detector..."]

end Service

end QueryLint
