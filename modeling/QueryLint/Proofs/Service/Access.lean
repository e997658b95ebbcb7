import QueryLint.Proofs.Service.Handling

/-!
# Requests without a key leave no trace

When the settings require a key, a request to a guarded route that does not bring it is turned away
before anything is counted or changed.  So it can be left out of every sequence of requests: the
other requests are handled in the same way, and the service ends in the same state.
-/

namespace QueryLint

/-- All guarded routes. -/
def GuardedRoute.all : List GuardedRoute :=
  [.analyze, .summarize, .openDocument, .changeDocument, .focusDocument, .closeDocument,
    .diagnostics, .detect]

/-- Whether a request has the path and the method of a guarded route. -/
def Request.isGuarded (r : Request) : Bool :=
  GuardedRoute.all.any fun g => (Route.guarded g).hasPath r.path && (Route.guarded g).allows r.method

lemma Route.ofPath?_of_hasPath {g : GuardedRoute} {path : String}
    (h : (Route.guarded g).hasPath path = true) : Route.ofPath? path = some (.guarded g) := by
  simp only [hasPath, Bool.or_eq_true, beq_iff_eq] at h
  rcases h with rfl | rfl <;> cases g <;> decide

lemma Request.ofPath?_of_isGuarded {r : Request} (h : r.isGuarded = true) :
    ∃ g, Route.ofPath? r.path = some (.guarded g) := by
  obtain ⟨g, -, hg⟩ := List.any_eq_true.mp h
  exact ⟨g, Route.ofPath?_of_hasPath (Bool.and_eq_true _ _ ▸ hg).1⟩

/-! ### The check of the key -/

/-- Access is granted if no key is asked for, or the key of the request is the configured one; an
empty key is never the right one. -/
theorem checkAccess_eq_ok_iff {settings : Settings} {given : Option String} :
    checkAccess settings given = .ok () ↔
      (settings.requireAuth = true → ∃ key, key ≠ "" ∧ settings.apiKey = some key ∧
        given = some key) := by
  unfold checkAccess
  cases hauth : settings.requireAuth with
  | false => simp
  | true =>
    simp only [Bool.not_true, Bool.false_eq_true, if_false, forall_const]
    split
    next hnone =>
      have hnone := Option.filter_eq_none_iff.mp hnone
      constructor
      · rintro ⟨⟩
      · rintro ⟨key, hne, hkey, -⟩
        exact absurd (hnone key hkey) (by simpa using hne)
    next key hkey =>
      obtain ⟨hkey, hne⟩ := Option.filter_eq_some_iff.mp hkey
      split
      next hnone =>
        have hnone := Option.filter_eq_none_iff.mp hnone
        constructor
        · rintro ⟨⟩
        · rintro ⟨key, hne, -, hgiven⟩
          exact absurd (hnone key hgiven) (by simpa using hne)
      next k hk =>
        obtain ⟨hgiven, -⟩ := Option.filter_eq_some_iff.mp hk
        rw [hkey, hgiven]
        split
        next heq => simpa [heq] using hne
        next hdiff => simpa using fun _ h => hdiff h.symm

namespace Service

/-! ### Leaving out requests -/

/-- The requests marked by `out` leave no trace in a sequence of requests: none of them succeeds,
every other one is handled as in the sequence without them, and so is the whole. -/
structure LeavesNoTrace (settings : Settings) (s : Service) (calls : List Call)
    (out : Call → Bool) : Prop where
  rejected : ∀ p ∈ calls.zip (s.handleAll settings calls), out p.1 = true →
    p.2.response.isSuccess = false
  others : ((calls.zip (s.handleAll settings calls)).filter fun p => !out p.1).map Prod.snd
    = s.handleAll settings (calls.filter fun c => !out c)
  state : s.replay settings calls = s.replay settings (calls.filter fun c => !out c)

/-- It is enough that each of the requests, whenever it comes, fails and changes nothing. -/
theorem leavesNoTrace_of_handle {settings : Settings} {out : Call → Bool}
    (h : ∀ s call, out call = true →
      (handle s settings call).service = s ∧ (handle s settings call).response.isSuccess = false)
    (s : Service) (calls : List Call) : LeavesNoTrace settings s calls out := by
  induction calls generalizing s with
  | nil => exact ⟨by simp, rfl, rfl⟩
  | cons call calls ih =>
    obtain ⟨hrejected, hothers, hstate⟩ := ih (s.handle settings call).service
    refine ⟨?_, ?_, ?_⟩
    · intro p hp hout
      rw [handleAll, List.zip_cons_cons] at hp
      rcases List.mem_cons.mp hp with rfl | hp
      · exact (h s call hout).2
      · exact hrejected p hp hout
    · rw [handleAll, List.zip_cons_cons]
      cases hout : out call with
      | true =>
        rw [(h s call hout).1] at hothers ⊢
        simpa [hout] using hothers
      | false => simpa [hout, handleAll] using hothers
    · rw [replay_cons, hstate]
      cases hout : out call with
      | true => simp [hout, (h s call hout).1]
      | false => simp [hout]

/-- A request to a guarded route that fails the check of the key fails and changes nothing. -/
lemma handle_of_checkAccess_ne_ok {settings : Settings} (s : Service) {call : Call}
    (hguarded : call.request.isGuarded = true)
    (haccess : checkAccess settings call.request.apiKey? ≠ .ok ()) :
    (s.handle settings call).service = s ∧
      (s.handle settings call).response.isSuccess = false := by
  cases handling settings s call with
  | page hpath _ _ =>
    obtain ⟨g, hg⟩ := call.request.ofPath?_of_isGuarded hguarded
    exact absurd hg (hpath g)
  | rejected hs hr => exact ⟨hs, hr⟩
  | admitted command hadm _ => exact absurd hadm.access haccess

/-- **Unauthenticated requests are inert.**  With a key configured these are the requests to guarded
routes that bring no key, an empty key or another key; without one, all requests to guarded
routes. -/
theorem unauthenticated_leavesNoTrace {settings : Settings} (hauth : settings.requireAuth = true)
    (s : Service) (calls : List Call) :
    (∀ key, settings.apiKey = some key → key ≠ "" → LeavesNoTrace settings s calls fun c =>
      c.request.isGuarded && decide (c.request.apiKey? ≠ some key)) ∧
    (settings.apiKey = none ∨ settings.apiKey = some "" → LeavesNoTrace settings s calls fun c =>
      c.request.isGuarded) := by
  constructor
  · intro key hkey hne
    refine leavesNoTrace_of_handle (fun s call hout => ?_) s calls
    obtain ⟨hguarded, hgiven⟩ := Bool.and_eq_true _ _ ▸ hout
    refine handle_of_checkAccess_ne_ok s hguarded fun haccess => ?_
    obtain ⟨key', -, hkey', hgiven'⟩ := checkAccess_eq_ok_iff.mp haccess hauth
    rw [hkey, Option.some.injEq] at hkey'
    exact of_decide_eq_true hgiven (hkey' ▸ hgiven')
  · intro hkey
    refine leavesNoTrace_of_handle (fun s call hguarded => ?_) s calls
    refine handle_of_checkAccess_ne_ok s hguarded fun haccess => ?_
    obtain ⟨key', hne, hkey', -⟩ := checkAccess_eq_ok_iff.mp haccess hauth
    rcases hkey with hkey | hkey <;> simp_all

theorem anonymous_request_leavesNoTrace :
    let settings : Settings := { requireAuth := true, apiKey := some "secret" }
    let anonymous : Call := { request := { method := "POST", path := "/api/analyze", client := "a" } }
    let keyed : Call := { request :=
      { method := "POST", path := "/api/commands/detect-slow-queries",
        headers := [("x-api-key", "secret")], client := "a" } }
    settings.requireAuth = true ∧ settings.apiKey = some "secret" ∧
      fresh.handleAll settings [keyed]
        = ((fresh.handleAll settings [anonymous, keyed]).drop 1) ∧
      fresh.replay settings [anonymous, keyed] = fresh.replay settings [keyed] := by
  intro settings anonymous keyed
  have hauth : settings.requireAuth = true := rfl
  have h := (unauthenticated_leavesNoTrace hauth fresh [anonymous, keyed]).1 "secret" rfl
    (by decide)
  exact ⟨hauth, rfl, h.others.symm, h.state⟩

end Service

end QueryLint
