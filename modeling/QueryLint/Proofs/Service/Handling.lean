import QueryLint.Proofs.Schema.Checks
import QueryLint.Service.Step

/-!
# What handling a request can come to

`Service.handling` says once and for all what `handle` can do: answer with a page and leave the
service alone, turn the request away and leave the service alone, or accept the command of a request
that passed every check.  `Service.accepting` goes on from there to `run`.

`workspace_handle` sums up what this means for the workspace: it stays as it is, or it is the one
after a single operation of the editor, the one that the command of the request starts.
-/

namespace QueryLint

/-! ### Commands and requests -/

lemma except_map_map {ε α β γ : Type} (f : α → β) (g : β → γ) (e : Except ε α) :
    (e.map f).map g = e.map fun a => g (f a) := by
  cases e <;> rfl

lemma except_map_eq_ok {ε α β : Type} {f : α → β} {e : Except ε α} {b : β} :
    e.map f = .ok b ↔ ∃ a, e = .ok a ∧ f a = b := by
  cases e <;> simp [Except.map]

lemma except_map_eq_error {ε α β : Type} {f : α → β} {e : Except ε α} {x : ε} :
    e.map f = .error x ↔ e = .error x := by
  cases e <;> simp [Except.map]

namespace Command

/-- The operation of the editor that a command starts; asking for diagnostics starts none. -/
def action? : Command → Option Session.Action
  | analyze t => some (.analyzeText t)
  | summarize t => some (.summarizeText t)
  | openDocument r => some (.opened r.uri r.languageId (some r.text) r.activate)
  | changeDocument r => some (.changed r.uri (some r.text))
  | focusDocument uri => some (.focus uri)
  | closeDocument uri => some (.close uri)
  | diagnostics _ => none
  | detect => some .detect

theorem route_of_ofRequest {route : GuardedRoute} {r : Request} {command : Command}
    (h : ofRequest route r = .ok command) : command.route = route := by
  cases route <;> simp only [ofRequest] at h
  case detect =>
    cases h
    rfl
  all_goals
    obtain ⟨a, -, rfl⟩ := Check.map_eq_ok.mp h
    rfl

end Command

namespace Response

/-- Whether an answer says that the request was carried out. -/
def isSuccess (r : Response) : Bool :=
  200 ≤ r.status && r.status < 300

/-- Whether an answer is one that any client may see. -/
def isPage : Response → Bool
  | health _ | exposition _ | rules _ | page => true
  | _ => false

end Response

namespace Service

variable {settings : Settings} {s : Service}

/-- A request passes all checks that look at nothing but the request, and asks for the command. -/
structure Admitted (settings : Settings) (r : Request) (command : Command) : Prop where
  path : Route.ofPath? r.path = some (.guarded command.route)
  method : (Route.guarded command.route).allows r.method = true
  body : bodyRefusal? command.route r = none
  access : checkAccess settings r.apiKey? = .ok ()
  form : Command.ofRequest command.route r = .ok command

/-- What handling a request can come to. -/
inductive Handling (settings : Settings) (s : Service) (call : Call) (h : Handled) : Prop where
  /-- A route without a guard. -/
  | page : (∀ route, Route.ofPath? call.request.path ≠ some (.guarded route)) →
      h.service = s → h.response.isPage = true → Handling settings s call h
  /-- A check failed; it was not the one on the number of requests. -/
  | rejected : h.service = s → h.response.isSuccess = false → h.response.status ≠ 429 →
      Handling settings s call h
  /-- Every check but those on number and length was passed. -/
  | admitted (command : Command) : Admitted settings call.request command →
      h = accept settings call s command → Handling settings s call h

lemma not_isSuccess_bodyRefusal {route : GuardedRoute} {r : Request} {response : Response}
    (h : bodyRefusal? route r = some response) :
    response.isSuccess = false ∧ response.status ≠ 429 := by
  unfold bodyRefusal? at h
  split at h
  · split at h <;> cases h <;> decide
  · cases h

theorem handling (settings : Settings) (s : Service) (call : Call) :
    Handling settings s call (s.handle settings call) := by
  unfold handle
  split
  next hpath =>
    dsimp only
    split
    · exact .rejected rfl rfl (by decide : Response.moved.status ≠ 429)
    · exact .rejected rfl rfl (by decide : Response.unknownPath.status ≠ 429)
  next route hpath =>
    split
    next hmethod => exact .rejected rfl rfl (by decide : Response.wrongMethod.status ≠ 429)
    next hmethod =>
      have hmethod : route.allows call.request.method = true := by simpa using hmethod
      split
      case h_5 route =>
        unfold handleGuarded
        split
        next response hbody =>
          obtain ⟨hsuccess, hstatus⟩ := not_isSuccess_bodyRefusal hbody
          exact .rejected rfl hsuccess hstatus
        next hbody =>
          split
          next e haccess =>
            have hstatus : e.refusal.status ≠ 429 := by cases e <;> decide
            exact .rejected rfl (by cases e <;> rfl) hstatus
          next haccess =>
            split
            next issues hform => exact .rejected rfl rfl (by decide : (422 : Int) ≠ 429)
            next command hform =>
              obtain rfl := Command.route_of_ofRequest hform
              exact .admitted command ⟨hpath, hmethod, hbody, haccess, hform⟩ rfl
      all_goals exact .page (by simp [hpath]) rfl rfl

/-! ### Acceptance -/

@[simp]
lemma session_countRequest (r : Request) (route : GuardedRoute) :
    (s.countRequest r route).1.session = s.session := by
  unfold countRequest
  split <;> rfl

@[simp]
lemma limit_countRequest (r : Request) (route : GuardedRoute) :
    (s.countRequest r route).1.limit = s.limit := by
  unfold countRequest
  split <;> rfl

lemma checkLength_eq_ok_iff {text : String} {limit : Int} :
    checkLength (some text) limit = .ok () ↔ text.length ≤ limit := by
  unfold checkLength
  dsimp only
  split
  next h => simpa using h
  next h => simpa using h

lemma status_of_checkLength_eq_error {text : Option String} {limit : Int} {refusal : Refusal}
    (h : checkLength text limit = .error refusal) : refusal.status = 400 := by
  unfold checkLength at h
  split at h
  · cases h
    rfl
  · split at h <;> cases h
    rfl

/-- What accepting a command can come to, and when; the request is counted in any case. -/
inductive Accepting (settings : Settings) (s : Service) (call : Call) (command : Command)
    (h : Handled) : Prop where
  /-- The client has sent too many requests. -/
  | tooMany : (s.countRequest call.request command.route).2 = true →
      h = ⟨(s.countRequest call.request command.route).1, .tooMany s.limit, []⟩ →
      Accepting settings s call command h
  /-- The text is too long. -/
  | tooLong (text : String) (refusal : Refusal) :
      (s.countRequest call.request command.route).2 = false → command.text? = some text →
      checkLength (some text) settings.maxDocumentLength = .error refusal →
      h = ⟨(s.countRequest call.request command.route).1, .refused refusal, []⟩ →
      Accepting settings s call command h
  /-- The command is run. -/
  | run : (s.countRequest call.request command.route).2 = false →
      (∀ text, command.text? = some text → text.length ≤ settings.maxDocumentLength) →
      h = run settings call.seconds call.fault (s.countRequest call.request command.route).1
        command →
      Accepting settings s call command h

theorem accepting (settings : Settings) (s : Service) (call : Call) (command : Command) :
    Accepting settings s call command (accept settings call s command) := by
  unfold accept
  dsimp only
  split
  next hcount => exact .tooMany hcount (by rw [limit_countRequest])
  next hcount =>
    have hcount := Bool.not_eq_true _ ▸ hcount
    split
    next htext => exact .run hcount (fun text h => by simp [htext] at h) rfl
    next text htext =>
      split
      next refusal hlength => exact .tooLong text refusal hcount htext hlength rfl
      next hlength =>
        refine .run hcount (fun text' h => ?_) rfl
        obtain rfl : text = text' := by simpa [htext] using h
        exact checkLength_eq_ok_iff.mp hlength

lemma handle_of_admitted {call : Call} {command : Command}
    (h : Admitted settings call.request command) :
    s.handle settings call = accept settings call s command := by
  simp only [handle, h.path, h.method, handleGuarded, h.body, h.access, h.form, Bool.not_true,
    Bool.false_eq_true, if_false]

/-- A request passes every check, so that its command is run; a fault may still strike it. -/
structure Reaches (settings : Settings) (s : Service) (call : Call) (command : Command) : Prop where
  admitted : Admitted settings call.request command
  count : (s.countRequest call.request command.route).2 = false
  length : ∀ text, command.text? = some text → text.length ≤ settings.maxDocumentLength

theorem handle_of_reaches {call : Call} {command : Command} (h : Reaches settings s call command) :
    s.handle settings call
      = run settings call.seconds call.fault (s.countRequest call.request command.route).1
          command := by
  rw [handle_of_admitted h.admitted]
  cases accepting settings s call command with
  | tooMany hcount _ =>
    rw [h.count] at hcount
    cases hcount
  | tooLong text _ _ htext hlength _ =>
    rw [checkLength_eq_ok_iff.mpr (h.length text htext)] at hlength
    cases hlength
  | run _ _ hrun => exact hrun

/-! ### Running a command -/

lemma status_failed (route : GuardedRoute) (f : Failure) :
    (s.failed route f).response.status = f.status := by
  cases f <;> rfl

lemma unlessFault_cases {α : Type} (fault : Option Fault) (target : Operation)
    (outcome : Except Failure (Outcome α)) :
    unlessFault fault target outcome = outcome ∨
      ∃ f, fault = some f ∧ unlessFault fault target outcome = .error f.failure := by
  unfold unlessFault
  split
  next f =>
    split
    · exact .inr ⟨f, rfl, rfl⟩
    · exact .inl rfl
  · exact .inl rfl

lemma workspace_finish_ok {α : Type} (route : GuardedRoute) (o : Outcome α)
    (response : Outcome α → Except Failure Response) :
    (s.finish route (.ok o) response).service.session.workspace = o.session.workspace := by
  simp only [finish]
  split <;> rfl

/-- Finishing an operation that leaves the session as an operation of the editor does. -/
lemma workspace_finish {α : Type} {route : GuardedRoute} {outcome : Except Failure (Outcome α)}
    {response : Outcome α → Except Failure Response} {seconds : Float} {action : Session.Action}
    (h : outcome.map Outcome.session
      = (s.session.perform settings seconds action).map Outcome.session) :
    (s.finish route outcome response).service.session.workspace
      = (s.session.after settings (action, seconds)).workspace := by
  unfold Session.after
  cases outcome <;> cases hp : s.session.perform settings seconds action <;>
    simp only [hp, Except.map, reduceCtorEq, Except.ok.injEq] at h
  · rfl
  · rw [workspace_finish_ok, h]

/-- The same, if a fault may hit the operation. -/
lemma workspace_finish_unlessFault {α : Type} {route : GuardedRoute} {fault : Option Fault}
    {target : Operation} {outcome : Except Failure (Outcome α)}
    {response : Outcome α → Except Failure Response} {seconds : Float} {action : Session.Action}
    (h : outcome.map Outcome.session
      = (s.session.perform settings seconds action).map Outcome.session) :
    (s.finish route (unlessFault fault target outcome) response).service.session.workspace
        = s.session.workspace ∨
      (s.finish route (unlessFault fault target outcome) response).service.session.workspace
        = (s.session.after settings (action, seconds)).workspace := by
  rcases unlessFault_cases fault target outcome with he | ⟨f, -, he⟩
  · rw [he]
    exact .inr (workspace_finish h)
  · rw [he]
    exact .inl rfl

theorem workspace_run (settings : Settings) (s : Service) (seconds : Float) (fault : Option Fault)
    (command : Command) :
    (run settings seconds fault s command).service.session.workspace = s.session.workspace ∨
      ∃ action, command.action? = some action ∧
        (run settings seconds fault s command).service.session.workspace
          = (s.session.after settings (action, seconds)).workspace := by
  cases command with
  | diagnostics uri => exact .inl (workspace_finish_ok _ _ _)
  | focusDocument uri | closeDocument uri =>
    refine .inr ⟨_, rfl, workspace_finish ?_⟩
    simp only [quiet, Session.perform, except_map_map]
  | changeDocument r | detect =>
    refine (workspace_finish_unlessFault ?_).imp_right fun h => ⟨_, rfl, h⟩
    simp only [Session.perform, except_map_map]
    rfl
  | analyze text | summarize text | openDocument r =>
    refine (workspace_finish_unlessFault ?_).imp_right fun h => ⟨_, rfl, h⟩
    rfl

/-- **The workspace after a request**: the same one, or the one after the operation of the editor
that its command starts. -/
theorem workspace_handle (settings : Settings) (s : Service) (call : Call) :
    (s.handle settings call).service.session.workspace = s.session.workspace ∨
      ∃ command action, Reaches settings s call command ∧ command.action? = some action ∧
        (s.handle settings call).service.session.workspace
          = (s.session.after settings (action, call.seconds)).workspace := by
  cases handling settings s call with
  | page _ hs _ | rejected hs _ _ => exact .inl (by rw [hs])
  | admitted command hadm hhandle =>
    rw [hhandle]
    cases accepting settings s call command with
    | tooMany _ haccept | tooLong _ _ _ _ _ haccept =>
      exact .inl (by rw [haccept, session_countRequest])
    | run hcount hlength haccept =>
      have hrun := workspace_run settings (s.countRequest call.request command.route).1
        call.seconds call.fault command
      rw [← haccept, session_countRequest] at hrun
      exact hrun.imp_right fun ⟨action, haction, hw⟩ =>
        ⟨command, action, ⟨hadm, hcount, hlength⟩, haction, hw⟩

end Service

end QueryLint
