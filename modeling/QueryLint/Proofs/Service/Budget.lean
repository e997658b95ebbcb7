import QueryLint.Proofs.Service.Answers

/-!
# The number of requests of a client

A request to a limited route that passes every earlier check is counted, whatever becomes of it
afterwards (`Request.isCounted`), and nothing else is.  Each client has a budget of such requests
for each path (`Request.sharesBudget`); the budget that was used up to some point is the number of
requests counted against it (`Service.used_replay`), and a request is one too many exactly if the
budget was used up before it (`Service.delivered?_eq_tooMany_iff`).

A path may be written with a line feed behind it, and the two spellings of it have budgets of their
own (`Service.spellings_have_budgets_of_their_own`).
-/

namespace QueryLint

namespace Request

/-- The command of a request that passes every check that looks at nothing but the request. -/
def command? (settings : Settings) (r : Request) : Option Command :=
  match Route.ofPath? r.path with
  | some (.guarded route) =>
    if (Route.guarded route).allows r.method && (Service.bodyRefusal? route r).isNone &&
        (checkAccess settings r.apiKey?).toBool then
      match Command.ofRequest route r with
      | .ok command => some command
      | .bad _ => none
    else none
  | _ => none

/-- Whether a request is counted: it is for a limited route and passes every check that comes before
the one on the number of requests. -/
def isCounted (settings : Settings) (r : Request) : Bool :=
  (r.command? settings).any fun command => command.route.isLimited

/-- Whether two requests are counted together: they come from the same address, and their paths are
spelled alike. -/
def sharesBudget (r r' : Request) : Bool :=
  r.address == r'.address && r.path == r'.path

variable {settings : Settings} {r r' : Request} {command : Command}

theorem command?_eq_some_iff :
    r.command? settings = some command ↔ Service.Admitted settings r command := by
  unfold command?
  constructor
  · intro h
    split at h
    next route hpath =>
      split at h
      next hchecks =>
        simp only [Bool.and_eq_true, Option.isNone_iff_eq_none] at hchecks
        obtain ⟨⟨hmethod, hbody⟩, haccess⟩ := hchecks
        split at h
        next c hform =>
          cases h
          obtain rfl := Command.route_of_ofRequest hform
          have haccess : checkAccess settings r.apiKey? = .ok () := by
            cases hcheck : checkAccess settings r.apiKey? with
            | ok _ => rfl
            | error e =>
              rw [hcheck] at haccess
              cases haccess
          exact ⟨hpath, hmethod, hbody, haccess, hform⟩
        next => cases h
      next => cases h
    next => cases h
  · rintro ⟨hpath, hmethod, hbody, haccess, hform⟩
    simp [hpath, hmethod, hbody, haccess, hform, Except.toBool]

theorem isCounted_iff : r.isCounted settings = true ↔
    ∃ command, Service.Admitted settings r command ∧ command.route.isLimited = true := by
  simp only [isCounted, ← command?_eq_some_iff]
  cases r.command? settings <;> simp

lemma isCounted_of_admitted (h : Service.Admitted settings r command) :
    r.isCounted settings = command.route.isLimited := by
  rw [isCounted, command?_eq_some_iff.mpr h, Option.any_some]

lemma sharesBudget_iff :
    r.sharesBudget r' = true ↔ (r.address, r.path) = (r'.address, r'.path) := by
  simp [sharesBudget]

end Request

namespace Service

/-- How much of the budget that a request draws on was used up. -/
def used (s : Service) (r : Request) : Nat :=
  (s.counts.get? (r.address, r.path)).getD 0

/-- The service at the beginning of a window of time: nothing has been counted yet. -/
def newWindow (s : Service) : Service :=
  { s with counts := .empty }

variable {settings : Settings} {s : Service} {call : Call} {command : Command} {r r' : Request}

@[simp]
lemma used_newWindow (s : Service) (r : Request) : s.newWindow.used r = 0 := rfl

/-! ### Only accepted requests are counted -/

lemma used_countRequest (route : GuardedRoute) :
    (s.countRequest r route).1.used r'
      = s.used r' + if route.isLimited && r.sharesBudget r' then 1 else 0 := by
  unfold countRequest used
  cases hlimited : route.isLimited with
  | false => simp
  | true =>
    simp only [if_true, Table.get?_adjust, Bool.true_and]
    by_cases hkey : (r.address, r.path) = (r'.address, r'.path)
    · simp [Request.sharesBudget_iff.mpr hkey, hkey]
    · have hshares : r.sharesBudget r' = false :=
        Bool.eq_false_iff.mpr fun h => hkey (Request.sharesBudget_iff.mp h)
      simp [hshares, Ne.symm hkey]

/-- A counted request is one too many if the budget was used up before it. -/
lemma countRequest_tooMany_iff (route : GuardedRoute) :
    (s.countRequest r route).2 = true ↔ route.isLimited = true ∧ s.limit.amount ≤ s.used r := by
  unfold countRequest used
  cases hlimited : route.isLimited with
  | false => simp
  | true =>
    simp only [if_true, Table.get?_adjust, Option.getD_some, decide_eq_true_eq, true_and]
    omega

/-- An operation leaves the budgets and the limit alone. -/
lemma finish_counts {α : Type} (route : GuardedRoute) (outcome : Except Failure (Outcome α))
    (response : Outcome α → Except Failure Response) :
    (s.finish route outcome response).service.counts = s.counts ∧
      (s.finish route outcome response).service.limit = s.limit := by
  unfold finish
  split
  · exact ⟨rfl, rfl⟩
  · split <;> exact ⟨rfl, rfl⟩

lemma run_counts (settings : Settings) (seconds : Float) (fault : Option Fault) (s : Service)
    (command : Command) :
    (run settings seconds fault s command).service.counts = s.counts ∧
      (run settings seconds fault s command).service.limit = s.limit := by
  cases command <;> exact finish_counts _ _ _

lemma accept_counts (settings : Settings) (s : Service) (call : Call) (command : Command) :
    (accept settings call s command).service.counts
        = (s.countRequest call.request command.route).1.counts ∧
      (accept settings call s command).service.limit = s.limit := by
  rw [← limit_countRequest (s := s) call.request command.route]
  cases accepting settings s call command with
  | tooMany _ h | tooLong _ _ _ _ _ h => exact ⟨by rw [h], by rw [h]⟩
  | run _ _ h =>
    rw [h]
    exact run_counts _ _ _ _ _

/-- A request that fails an early check, or that needs none, leaves the service alone. -/
lemma service_handle_of_not_admitted (h : ∀ command, ¬ Admitted settings call.request command) :
    (s.handle settings call).service = s := by
  cases handling settings s call with
  | page _ hs _ | rejected hs _ => exact hs
  | admitted command hadm _ => exact absurd hadm (h command)

/-! ### Runs -/

@[simp]
lemma limit_handle (settings : Settings) (s : Service) (call : Call) :
    (s.handle settings call).service.limit = s.limit := by
  by_cases h : ∃ command, Admitted settings call.request command
  · obtain ⟨command, hadm⟩ := h
    rw [handle_of_admitted hadm, (accept_counts settings s call command).2]
  · rw [service_handle_of_not_admitted (not_exists.mp h)]

lemma limit_replay (settings : Settings) (s : Service) (calls : List Call) :
    (s.replay settings calls).limit = s.limit := by
  induction calls generalizing s with
  | nil => rfl
  | cons call calls ih => rw [replay_cons, ih, limit_handle]

lemma used_handle (settings : Settings) (s : Service) (call : Call) (r : Request) :
    (s.handle settings call).service.used r
      = s.used r
        + if call.request.isCounted settings && call.request.sharesBudget r then 1 else 0 := by
  by_cases h : ∃ command, Admitted settings call.request command
  · obtain ⟨command, hadm⟩ := h
    rw [handle_of_admitted hadm, used, (accept_counts settings s call command).1,
      Request.isCounted_of_admitted hadm]
    exact used_countRequest command.route
  · have hcounted : call.request.isCounted settings = false := by
      rw [Bool.eq_false_iff, Ne, Request.isCounted_iff]
      exact fun ⟨command, hadm, _⟩ => h ⟨command, hadm⟩
    rw [service_handle_of_not_admitted (not_exists.mp h), hcounted]
    rfl

/-- **What was used up.**  After some requests, a budget was used as often as one of them was
counted against it. -/
theorem used_replay (settings : Settings) (s : Service) (calls : List Call) (r : Request) :
    (s.replay settings calls).used r
      = s.used r
        + calls.countP fun c => c.request.isCounted settings && c.request.sharesBudget r := by
  induction calls generalizing s with
  | nil => rfl
  | cons call calls ih =>
    rw [replay_cons, ih, used_handle, List.countP_cons]
    omega

/-! ### One request too many -/

lemma delivered?_tooMany (limit : RateLimit) :
    (Response.tooMany limit).delivered? = some 429 := by
  have hbody : Json.Sendable (965 + 1) (Response.tooMany limit).body := by
    simp [Response.body, Json.Text.isWhole]
  have hsend : (Response.tooMany limit).sendError? = none := by
    simp only [Response.sendError?, hbody.writeError?_eq_none, Option.map_none]
  rw [Response.delivered?, hsend]
  rfl

lemma status_of_delivered? {response : Response} {status : Int}
    (h : response.delivered? = some status) : response.status = status := by
  unfold Response.delivered? at h
  split at h <;> cases h
  rfl

lemma status_of_isPage {response : Response} (h : response.isPage = true) :
    response.status = 200 := by
  cases response <;> first | rfl | cases h

lemma status_of_obstacle? {w : Workspace} {f : Failure} (h : command.obstacle? w = some f) :
    f.status = 404 ∨ f.status = 409 := by
  cases command with
  | analyze _ | summarize _ | openDocument _ => cases h
  | changeDocument _ | focusDocument _ | closeDocument _ | diagnostics _ | detect =>
    simp only [Command.obstacle?] at h
    split at h <;> cases h
    first | exact .inl rfl | exact .inr rfl

/-- A command that is run without a fault is never answered like one request too many. -/
lemma status_run_ne (settings : Settings) (seconds : Float) (s : Service) (command : Command) :
    (run settings seconds none s command).response.status ≠ 429 := by
  cases ran settings seconds none s command with
  | struck _ hfault _ => cases hfault
  | hindered f hobstacle hrun =>
    rw [hrun, status_failed]
    rcases status_of_obstacle? hobstacle with hf | hf <;> rw [hf] <;> decide
  | done _ hproduct =>
    rw [Response.status_of_isProduct hproduct]
    decide

/-- **One too many.**  A request is one too many exactly if it is counted and its budget was used
up. -/
theorem delivered?_eq_tooMany_iff (hfault : call.fault = none) :
    (s.handle settings call).response.delivered? = some 429 ↔
      call.request.isCounted settings = true ∧ s.limit.amount ≤ s.used call.request := by
  by_cases h : ∃ command, Admitted settings call.request command
  · obtain ⟨command, hadm⟩ := h
    rw [handle_of_admitted hadm, Request.isCounted_of_admitted hadm, ← countRequest_tooMany_iff]
    cases accepting settings s call command with
    | tooMany hcount h =>
      rw [h]
      exact iff_of_true (delivered?_tooMany s.limit) hcount
    | tooLong text refusal hcount _ hlength h =>
      have hstatus : (accept settings call s command).response.status = 400 := by
        rw [h]
        exact status_of_checkLength_eq_error hlength
      refine iff_of_false (fun hdelivered => ?_) (by simp [hcount])
      have := status_of_delivered? hdelivered
      omega
    | run hcount _ h =>
      refine iff_of_false (fun hdelivered => ?_) (by simp [hcount])
      rw [h, hfault] at hdelivered
      exact status_run_ne _ _ _ _ (status_of_delivered? hdelivered)
  · have hcounted : ¬ call.request.isCounted settings = true := by
      rw [Request.isCounted_iff]
      exact fun ⟨command, hadm, _⟩ => h ⟨command, hadm⟩
    refine iff_of_false (fun hdelivered => ?_) fun hboth => hcounted hboth.1
    have hstatus := status_of_delivered? hdelivered
    cases handling settings s call with
    | page _ _ hpage =>
      rw [status_of_isPage hpage] at hstatus
      cases hstatus
    | rejected _ _ hne => exact hne hstatus
    | admitted command hadm _ => exact h ⟨command, hadm⟩

/-- A request that is one too many leaves no trace but in its budget. -/
lemma session_of_tooMany (hfault : call.fault = none)
    (h : (s.handle settings call).response.delivered? = some 429) :
    (s.handle settings call).service.session = s.session := by
  obtain ⟨hcounted, hused⟩ := (delivered?_eq_tooMany_iff hfault).mp h
  obtain ⟨command, hadm, hlimited⟩ := Request.isCounted_iff.mp hcounted
  have htooMany := (countRequest_tooMany_iff command.route).mpr ⟨hlimited, hused⟩
  rw [handle_of_admitted hadm]
  cases accepting settings s call command with
  | tooMany _ h => rw [h, session_countRequest]
  | tooLong _ _ hcount _ _ _ | run hcount _ _ =>
    rw [hcount] at htooMany
    cases htooMany

/-- **The limit on requests is exact.**  Within a window of time a request is answered with the
status 429 exactly if it is counted, and at least as many earlier requests of the same client to the
same path were counted as the limit allows, whatever became of them.  Such an answer changes neither
the workspace nor the metrics.  Requests that are not counted, and those of other clients or to other
paths, can be left out without making a difference. -/
theorem limit_on_requests_exact (settings : Settings) (s : Service) (earlier : List Call)
    (hfault : call.fault = none) :
    let now := s.newWindow.replay settings earlier
    let h := now.handle settings call
    let together : Call → Bool := fun c =>
      c.request.isCounted settings && c.request.sharesBudget call.request
    (h.response.delivered? = some 429 ↔
      call.request.isCounted settings = true ∧ s.limit.amount ≤ earlier.countP together) ∧
    (h.response.delivered? = some 429 → h.service.session = now.session) ∧
    ∀ kept : Call → Bool, (∀ c ∈ earlier, together c = true → kept c = true) →
      (h.response.delivered? = some 429 ↔
        ((s.newWindow.replay settings (earlier.filter kept)).handle settings
          call).response.delivered? = some 429) := by
  intro now h together
  have hexact : ∀ calls : List Call,
      ((s.newWindow.replay settings calls).handle settings call).response.delivered? = some 429 ↔
        call.request.isCounted settings = true ∧ s.limit.amount ≤ calls.countP together := by
    intro calls
    rw [delivered?_eq_tooMany_iff hfault, limit_replay, used_replay, used_newWindow, Nat.zero_add]
    rfl
  refine ⟨hexact earlier, session_of_tooMany hfault, fun kept hkept => ?_⟩
  have hcount : (earlier.filter kept).countP together = earlier.countP together := by
    rw [List.countP_filter]
    refine List.countP_congr fun c hc => ?_
    simp only [Bool.and_eq_true, and_iff_left_iff_imp]
    exact hkept c hc
  rw [hexact (earlier.filter kept), hcount]
  exact hexact earlier

/-- A limit of one request: the second request of a client is one too many, with or without the
request of another client between them. -/
theorem second_request_tooMany :
    let request (client : String) : Call := { request :=
      { method := "POST", path := "/api/analyze", client := client,
        payload := .value (.obj [("text", .str "SELECT 1")]) } }
    let s : Service := { fresh with limit := { amount := 1 } }
    let earlier := [request "a", request "b"]
    let call := request "a"
    let kept : Call → Bool := fun c => c.request.client == "a"
    call.fault = none ∧
      (∀ c ∈ earlier, (c.request.isCounted {} && c.request.sharesBudget call.request) = true →
        kept c = true) ∧
      ((s.newWindow.replay {} earlier).handle {} call).response.delivered? = some 429 ∧
      ((s.newWindow.replay {} (earlier.filter kept)).handle {} call).response.delivered?
        = some 429 := by
  intro request s earlier call kept
  have hkept : ∀ c ∈ earlier,
      (c.request.isCounted {} && c.request.sharesBudget call.request) = true → kept c = true := by
    simp [earlier, request, call, kept, Request.sharesBudget, Request.address]
  have hfault : call.fault = none := rfl
  obtain ⟨hiff, -, hleft⟩ := limit_on_requests_exact {} s earlier hfault
  have htooMany := hiff.mpr ⟨by decide +kernel, by decide +kernel⟩
  exact ⟨hfault, hkept, htooMany, (hleft kept hkept).mp htooMany⟩

/-- The same route under its two spellings: with the first one the limit is reached, and with the
second one a request is answered all the same. -/
theorem spellings_have_budgets_of_their_own :
    let request (path : String) : Call := { request :=
      { method := "POST", path := path, client := "a",
        payload := .value (.obj [("text", .str "x")]) } }
    let earlier := List.replicate 120 (request "/api/analyze")
    let call := request "/api/analyze\n"
    (∀ c ∈ call :: earlier, c.fault = none ∧ c.request.isCounted {} = true ∧
      c.request.address = "a" ∧ Route.ofPath? c.request.path = some (.guarded .analyze)) ∧
      fresh.limit.amount ≤ earlier.length ∧
      ((fresh.replay {} earlier).handle {} call).response.delivered? ≠ some 429 := by
  intro request earlier call
  have hfirst : (request "/api/analyze").request.isCounted {} = true := by decide +kernel
  have hsecond : call.request.isCounted {} = true := by decide +kernel
  refine ⟨fun c hc => ?_, by simp [fresh, start, earlier], fun htooMany => ?_⟩
  · rcases List.mem_cons.mp hc with rfl | hc
    · exact ⟨rfl, hsecond, rfl, by decide⟩
    · obtain rfl := List.eq_of_mem_replicate hc
      exact ⟨rfl, hfirst, rfl, by decide⟩
  · rw [delivered?_eq_tooMany_iff rfl, limit_replay, used_replay, List.countP_replicate] at htooMany
    have hapart : (request "/api/analyze").request.sharesBudget call.request = false := by decide
    rw [hapart, Bool.and_false] at htooMany
    exact absurd htooMany.2 (by decide)

end Service

end QueryLint
