import QueryLint.Diagnostic
import QueryLint.Settings
import QueryLint.Text.Quoted

/-!
# Documents

A document as the editor sees it: its identity, its content type, a version and the full text.  The
line index of the text is made once for each text and kept beside it, so that a position costs no
scan of the text.
-/

namespace QueryLint

/-- An open document. -/
structure Document where
  uri : String
  languageId : Json.Text
  version : Int
  text : String
  /-- Where the lines of the text start. -/
  lines : LineIndex := .ofText text
  /-- The lines are those of the current text, never of an earlier one. -/
  lines_eq : lines = .ofText text := by rfl
deriving DecidableEq, Repr

namespace Document

/-- The text determines the lines, so documents are equal if the rest is. -/
@[ext]
theorem ext {d d' : Document} (huri : d.uri = d'.uri) (hlanguageId : d.languageId = d'.languageId)
    (hversion : d.version = d'.version) (htext : d.text = d'.text) : d = d' := by
  have hlines : d.lines = d'.lines := by rw [d.lines_eq, d'.lines_eq, htext]
  cases d
  cases d'
  simp_all

/-- A document with a text; no text is the empty text. -/
def create (uri : String) (languageId : Json.Text) (version : Int) (text : Option String) :
    Document where
  uri := uri
  languageId := languageId
  version := version
  text := text.getD ""

/-- Replaces the text, and the lines with it. -/
def setText (d : Document) (text : Option String) : Document :=
  { d with
    text := text.getD ""
    lines := .ofText (text.getD "")
    lines_eq := rfl }

/-- The line and character of an offset. -/
def positionAt (d : Document) (offset : Int) : Position :=
  d.lines.position offset

theorem positionAt_eq (d : Document) (offset : Int) :
    d.positionAt offset = (LineIndex.ofText d.text).position offset := by
  rw [positionAt, d.lines_eq]

/-- Whether the document is analyzed; no language id of the settings holds half of a pair. -/
def isSql (settings : Settings) (d : Document) : Bool :=
  d.languageId.isWhole && settings.isSql d.languageId.chars

/-- The document in one line, without its text. -/
def describe (d : Document) : String :=
  "TextDocument(uri=" ++ quoted d.uri ++ ", language_id=" ++
    quotedPoints d.languageId.codePoints ++ ", version=" ++ toString d.version ++ ")"

end Document

/-- The diagnostic of a finding in a document. -/
def toDiagnostic (d : Document) (f : Finding) : Diagnostic :=
  d.lines.locate f

/-- The diagnostics of a document: the findings of its text, each with its range. -/
def diagnose (d : Document) : List Diagnostic :=
  (analyze d.text).map (toDiagnostic d)

end QueryLint
