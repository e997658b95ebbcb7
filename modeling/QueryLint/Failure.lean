import QueryLint.Log
import QueryLint.Text.Part

/-!
# Failures

Why an operation did not give a result, and what the client is told about it.  A message that may
show the inside of the program is replaced, a long one is cut; the log always gets the full text.
-/

namespace QueryLint

/-- A refusal with a status and an explanation, as the client sees it. -/
structure Refusal where
  status : Int
  detail : String
deriving DecidableEq, Repr

/-- Why an operation failed. -/
inductive Failure where
  /-- The document is not open. -/
  | documentNotOpen (uri : String)
  /-- A check of the active document was asked for, and no document is active. -/
  | noActiveDocument (message : String)
  /-- The analysis itself went wrong. -/
  | analysis (message : String)
  /-- Something that nobody foresaw. -/
  | unexpected (message : String)
  /-- The operation has already decided what to answer. -/
  | refused (refusal : Refusal)
deriving DecidableEq, Repr

namespace Failure

/-- The message of a missing active document unless another is given. -/
def noActiveMessage : String := "No active editor detected."

/-- What went wrong, in full. -/
def message : Failure → String
  | documentNotOpen uri => "Document not open: " ++ uri
  | noActiveDocument m => m
  | analysis m => m
  | unexpected m => m
  | refused r => r.detail

/-- The text shown in place of one that may show the inside of the program. -/
def concealed : String := "An internal error occurred. Please check your input and try again."

/-- The number of characters of a message that are shown. -/
def shownLength : Nat := 200

/-- Whether a message may hold a stack trace or the name of a source file. -/
def isRevealing (m : String) : Bool :=
  hasPart m "Traceback" || (hasPart m "File" && hasPart m ".py")

/-- A message fit to be shown. -/
def sanitize (m : String) : String :=
  if isRevealing m then concealed
  else if shownLength < m.length then firstChars shownLength m ++ "..."
  else m

/-- The status of the answer. -/
def status : Failure → Int
  | documentNotOpen _ => 404
  | noActiveDocument _ => 409
  | analysis _ => 500
  | unexpected _ => 500
  | refused r => r.status

/-- The log entry of a failure of the operation named by the context. -/
def entry (f : Failure) (context : Option String) : LogEntry :=
  let place := match context with
    | none => ""
    | some "" => ""
    | some c => " in " ++ c
  if f.status = 500 then
    .message .error .failures ("Analysis error" ++ place ++ ": " ++ f.message)
  else
    .message .info .failures ("Analysis request rejected" ++ place ++ ": " ++ f.message)

/-- The answer to a failure and what is logged about it.  A refusal is passed on as it is. -/
def handle (f : Failure) (context : Option String) : Refusal × List LogEntry :=
  match f with
  | refused r => (r, [])
  | _ => (⟨f.status, sanitize f.message⟩, [f.entry context])

end Failure

/-- The most characters a document may have unless configured otherwise. -/
def defaultMaxLength : Int := 200000

/-- Refuses a text that is missing or longer than the limit. -/
def checkLength (text : Option String) (limit : Int) : Except Refusal Unit :=
  match text with
  | none => .error ⟨400, "Text is required"⟩
  | some t =>
    if limit < t.length then
      .error ⟨400, "Document exceeds maximum length of " ++ toString limit ++ " characters"⟩
    else .ok ()

end QueryLint
