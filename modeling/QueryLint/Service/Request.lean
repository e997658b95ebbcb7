import QueryLint.Failure
import QueryLint.Json.Reader
import QueryLint.Text.Encoding
import QueryLint.Text.Lower

/-!
# Requests

A request as it reaches the service: method, path, query, headers, body and the address of the
client.
-/

namespace QueryLint

/-- The body of a request, read as JSON. -/
inductive Payload where
  /-- No body. -/
  | absent
  /-- A body that is not JSON. -/
  | malformed
  /-- A body that cannot be read at all: its bytes are no text, or it goes beyond the limits of the
  reader. -/
  | unreadable
  /-- A body of another content type, which is not read. -/
  | foreign
  /-- The value of the body. -/
  | value (j : Json)

namespace Payload

/-- Whether a content type is JSON: its subtype is `json` or ends with `+json`, parameters and case
apart. -/
def isJsonType (contentType : String) : Bool :=
  let essence := trimWhere isBlank (contentType.toList.takeWhile (· != ';'))
  match (lower (String.ofList essence)).toList.splitOn '/' with
  | [kind, subtype] =>
    kind == "application".toList &&
      (subtype == "json".toList || "+json".toList.isSuffixOf subtype)
  | _ => false

/-- Whether a body is read; one without a content type is, one with an empty content type is not. -/
def isRead (contentType : Option String) : Bool :=
  match contentType with
  | none => true
  | some t => isJsonType t

/-- The body that a text is. -/
def ofText (contentType : Option String) (text : String) : Payload :=
  if text.isEmpty then absent
  else if !isRead contentType then foreign
  else
    match Encoding.decode text with
    | none => unreadable
    | some ps =>
      match Json.read ps with
      | .ok j => value j
      | .error .malformed => malformed
      | .error _ => unreadable

/-- The body that a value is. -/
def ofJson (contentType : Option String) (j : Json) : Payload :=
  if !isRead contentType then foreign
  else if Json.maxDepth < j.depth then unreadable
  else value j

end Payload

/-- A request. -/
structure Request where
  method : String
  path : String
  query : List (String × String) := []
  headers : List (String × String) := []
  payload : Payload := .absent
  client : String

namespace Request

/-- The value of a query parameter; of several with one name the last one counts. -/
def parameter? (r : Request) (name : String) : Option String :=
  (r.query.reverse.find? fun q => q.1 == name).map Prod.snd

/-- A name in ASCII lower case: names of headers are compared so. -/
def headerKey (name : String) : String :=
  String.ofList (name.toList.map Char.toLower)

/-- The value of the first header of a name. -/
def headerOf (headers : List (String × String)) (name : String) : Option String :=
  (headers.find? fun h => headerKey h.1 == headerKey name).map Prod.snd

/-- The API key that the request brings. -/
def apiKey? (r : Request) : Option String :=
  headerOf r.headers "X-API-Key"

/-- The address under which the requests of a client are counted; a client without an address counts
as the local one. -/
def address (r : Request) : String :=
  if r.client.isEmpty then "127.0.0.1" else r.client

end Request

end QueryLint
