import QueryLint.Schema.Scalar
import QueryLint.Text.Lower

/-!
# Settings

The configuration of the program and how it is read from environment variables.  Variables are found
by name up to case; a variable that is not set leaves the default, and one that cannot be read is an
issue under its name.
-/

namespace QueryLint

/-- The configuration of the program. -/
structure Settings where
  logLevel : String := "INFO"
  maxDocumentLength : Int := 200000
  sqlLanguageIds : String := "sql"
  requireAuth : Bool := false
  apiKey : Option String := none
  corsOrigins : String := "http://localhost:5173"
  /-- The limit on the number of requests as it is written; no request reads it, since the limit is
  settled when the service starts (`Service.start`). -/
  rateLimit : String := "120/minute"
deriving DecidableEq, Repr

/-! ### Language ids -/

/-- The language ids that a comma-separated text names: blanks around an id and empty ids are
dropped, and case is forgotten. -/
def languageIds (ids : String) : List String :=
  ((ids.toList.splitOn ',').map (trimWhere isBlank)).filter (fun cs => !cs.isEmpty)
    |>.map fun cs => lower (String.ofList cs)

namespace Settings

/-- The language ids of SQL documents, each once, in the order of their code points. -/
def sortedLanguageIds (s : Settings) : List String :=
  (languageIds s.sqlLanguageIds).eraseDups.mergeSort

/-- Whether documents with this language id are analyzed. -/
def isSql (s : Settings) (languageId : String) : Bool :=
  (languageIds s.sqlLanguageIds).contains (lower languageId)

/-! ### Environment -/

/-- The variables of an environment. -/
abbrev Environment := List (String × String)

/-- The value of a variable; where names differ only by case the last one counts. -/
def lookupName? (env : Environment) (name : String) : Option String :=
  (env.reverse.find? fun v => lower v.1 == lower name).map Prod.snd

/-- A setting from its variable, or the default. -/
def setting {α : Type} (env : Environment) (name : String) (default : α)
    (check : Json → Check α) : Check α :=
  match lookupName? env name with
  | some value => (check (.str value)).under (.field name)
  | none => .ok default

/-- The settings that an environment asks for. -/
def ofEnvironment (env : Environment) : Check Settings :=
  let d : Settings := {}
  (setting env "SLOWQUERY_LOG_LEVEL" d.logLevel Schema.text).both
    ((setting env "SLOWQUERY_MAX_DOCUMENT_LENGTH" d.maxDocumentLength Schema.integer).both
      ((setting env "SLOWQUERY_SQL_LANGUAGE_IDS" d.sqlLanguageIds Schema.text).both
        ((setting env "SLOWQUERY_REQUIRE_AUTH" d.requireAuth Schema.boolean).both
          ((setting env "SLOWQUERY_API_KEY" d.apiKey fun j => (Schema.text j).map some).both
            ((setting env "SLOWQUERY_CORS_ORIGINS" d.corsOrigins Schema.text).both
              (setting env "SLOWQUERY_RATE_LIMIT" d.rateLimit Schema.text))))))
  |>.map fun (logLevel, maxDocumentLength, sqlLanguageIds, requireAuth, apiKey, corsOrigins,
      rateLimit) =>
    ⟨logLevel, maxDocumentLength, sqlLanguageIds, requireAuth, apiKey, corsOrigins, rateLimit⟩

end Settings

end QueryLint
