import QueryLint.Failure
import QueryLint.Settings

/-!
# Access

The check of the API key that guards every document and analysis route.  It does nothing unless the
settings require it.
-/

namespace QueryLint

/-- Why access was denied. -/
inductive AccessError where
  /-- A key is required, but the service has none. -/
  | notConfigured
  /-- The request has no key. -/
  | keyMissing
  /-- The request has another key. -/
  | keyWrong
deriving DecidableEq, Repr

namespace AccessError

/-- The answer to the client. -/
def refusal : AccessError → Refusal
  | notConfigured =>
    ⟨500, "Server configuration error: API key authentication not properly configured"⟩
  | keyMissing => ⟨401, "API key required. Provide X-API-Key header."⟩
  | keyWrong => ⟨401, "Invalid API key"⟩

/-- What is logged. -/
def log : AccessError → List LogEntry
  | notConfigured =>
    [.message .warning .access "API key authentication required but no key configured"]
  | keyMissing => []
  | keyWrong => [.message .info .access "Rejected request with invalid API key"]

end AccessError

/-- Checks the key that a request brings; an empty key is no key, on either side. -/
def checkAccess (settings : Settings) (given : Option String) : Except AccessError Unit :=
  if !settings.requireAuth then .ok ()
  else
    match settings.apiKey.filter (fun k => !k.isEmpty) with
    | none => .error .notConfigured
    | some key =>
      match given.filter fun k => !k.isEmpty with
      | none => .error .keyMissing
      | some k => if k = key then .ok () else .error .keyWrong

end QueryLint
