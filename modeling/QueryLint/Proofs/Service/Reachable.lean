import QueryLint.Proofs.Service.Handling

/-!
# The states of the service

The service starts with some limit on the number of requests and handles requests, all under the
same settings; as time goes by it forgets what it has counted.  The states that it gets into in this
way are `Reachable`, those after a sequence of requests among them (`reachable_replay`).

An invariant of the workspace asks for two things only (`Reachable.workspace_induction`): it holds
of the empty workspace, and every operation of the editor that a request can start keeps it.
-/

namespace QueryLint

namespace Service

variable {settings : Settings} {s : Service}

/-- The states that the service can get into: it starts with some limit on the number of requests,
handles requests, and as time goes by it forgets what it has counted. -/
inductive Reachable (settings : Settings) : Service → Prop where
  | start (limit : RateLimit) : Reachable settings (start limit)
  | handle {s : Service} (call : Call) : Reachable settings s →
      Reachable settings (s.handle settings call).service
  | forget {s : Service} (counts : Table (String × String) Nat) : Reachable settings s →
      Reachable settings { s with counts := counts }

lemma Reachable.replay (h : Reachable settings s) (calls : List Call) :
    Reachable settings (s.replay settings calls) := by
  induction calls generalizing s with
  | nil => exact h
  | cons call calls ih => exact ih (h.handle call)

/-- The states after sequences of requests. -/
lemma reachable_replay (settings : Settings) (calls : List Call) :
    Reachable settings (fresh.replay settings calls) :=
  (Reachable.start {}).replay calls

/-- **Induction along the requests**, for what is said of the workspace. -/
theorem Reachable.workspace_induction {P : Workspace → Prop} (hnew : P (.new none))
    (hafter : ∀ (s : Service) (call : Call) (command : Command) (action : Session.Action),
      Reaches settings s call command → command.action? = some action → P s.session.workspace →
      P (s.session.after settings (action, call.seconds)).workspace)
    (h : Reachable settings s) : P s.session.workspace := by
  induction h with
  | start limit => exact hnew
  | @handle s call _ ih =>
    rcases workspace_handle settings s call with hw | ⟨command, action, hreaches, haction, hw⟩
    · rw [hw]
      exact ih
    · rw [hw]
      exact hafter s call command action hreaches haction ih
  | forget counts _ ih => exact ih

end Service

end QueryLint
