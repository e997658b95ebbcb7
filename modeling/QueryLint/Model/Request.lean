import QueryLint.Schema.Object

/-!
# Requests on the wire

The bodies that clients send.
-/

namespace QueryLint

open Schema

/-- The names of the content type of a document. -/
def languageIdName : FieldName := ⟨"languageId", "language_id"⟩

/-- A text to be analyzed. -/
structure TextRequest where
  text : String
deriving DecidableEq, Repr

namespace TextRequest

/-- A text to be analyzed; it may be empty. -/
def check (j : Json) : Check TextRequest :=
  (object j).bind fun fields => (required (.same "text") Schema.text fields).map fun t => ⟨t⟩

/-- The object form of the request. -/
def json (r : TextRequest) : Json :=
  .obj [("text", .str r.text)]

end TextRequest

/-- A document to be opened, or opened again. -/
structure OpenRequest where
  uri : String
  languageId : Json.Text
  text : String
  activate : Bool
deriving DecidableEq, Repr

namespace OpenRequest

/-- A document to be opened: empty and active unless the request says otherwise. -/
def check (j : Json) : Check OpenRequest :=
  (object j).bind fun fields =>
    (required (.same "uri") nonEmptyText fields).both
      ((required languageIdName anyText fields).both
        ((optional (.same "text") "" Schema.text fields).both
          (optional (.same "activate") true boolean fields)))
    |>.map fun (uri, languageId, text, activate) => ⟨uri, languageId, text, activate⟩

/-- The object form of the request. -/
def json (naming : Naming) (r : OpenRequest) : Json :=
  .obj [("uri", .str r.uri), (languageIdName.under naming, .str r.languageId),
    ("text", .str r.text), ("activate", .bool r.activate)]

end OpenRequest

/-- The full new text of an open document. -/
structure ChangeRequest where
  uri : String
  text : String
deriving DecidableEq, Repr

namespace ChangeRequest

/-- A change of a document. -/
def check (j : Json) : Check ChangeRequest :=
  (object j).bind fun fields =>
    (required (.same "uri") nonEmptyText fields).both (required (.same "text") Schema.text fields)
    |>.map fun (uri, text) => ⟨uri, text⟩

/-- The object form of the request. -/
def json (r : ChangeRequest) : Json :=
  .obj [("uri", .str r.uri), ("text", .str r.text)]

end ChangeRequest

/-- A mention of a document. -/
structure DocumentRef where
  uri : String
deriving DecidableEq, Repr

namespace DocumentRef

/-- A mention of a document. -/
def check (j : Json) : Check DocumentRef :=
  (object j).bind fun fields =>
    (required (.same "uri") nonEmptyText fields).map fun uri => ⟨uri⟩

/-- The object form of the request. -/
def json (r : DocumentRef) : Json :=
  .obj [("uri", .str r.uri)]

end DocumentRef

end QueryLint
