import GeoLayers.Error
import GeoLayers.Http.Form
import GeoLayers.Json.Basic

/-!
Requests and responses.
-/

namespace GeoLayers.Http

inductive Method where
  | get | head | post
  | other (name : String)
  deriving DecidableEq, Repr, Inhabited

def Method.ofName (name : String) : Method :=
  if name = "GET" then .get
  else if name = "HEAD" then .head
  else if name = "POST" then .post
  else .other name

structure Request where
  method : Method
  /-- The path as it was sent, with its percent signs. -/
  path : String
  query : String := ""
  headers : List (String × String) := []
  body : String := ""
  deriving Repr, Inhabited

/-- Whether a character may stand in the text of a header. -/
def isHeaderText (c : Char) : Bool := c == '\t' || (32 ≤ c.toNat && c.toNat < 127)

/-- The text of the first header with a name, letters large or small. There is none if the header
has other characters than visible ASCII. -/
def Request.header? (request : Request) (name : String) : Option String :=
  (request.headers.find? fun header => Text.asciiLower header.1 == Text.asciiLower name).bind
    fun header => if header.2.toList.all isHeaderText then some header.2 else none

/-- The type of a body that is a form. -/
def formType : String := "application/x-www-form-urlencoded"

/-- Whether the body of a request is a form. -/
def Request.hasForm (request : Request) : Bool :=
  ((request.header? "content-type").bind (Text.stripStart formType)).isSome

/-- What a response holds. -/
inductive Content where
  | none
  | json (value : Json)
  /-- A table of comma-separated values, to be saved as a file. -/
  | table (file text : String)
  deriving Inhabited

/-- The header that names the file to save a response in. -/
def Content.disposition? : Content → Option String
  | .table file _ => some ("attachment; filename=\"" ++ file ++ "\"")
  | _ => Option.none

structure Response where
  status : Nat
  content : Content := .none
  deriving Inhabited

/-- The status for an error. -/
def statusOf : Error → Nat
  | .internal => 500
  | .unauthorized => 401
  | .missing _ => 404
  | _ => 400

/-- What a client is told of an error. -/
def errorJson (e : Error) : Json :=
  Json.ofMembers
    [("error", some (.text e.message)), ("code", some (.text e.code)),
      ("fields", e.fields?.map fun fields => .array (fields.map .text)),
      ("details", match e with
        | .query fault => some fault.toJson
        | _ => Option.none)]

namespace Response

def ofError (e : Error) : Response := ⟨statusOf e, .json (errorJson e)⟩

/-- The content with the status for success, or the error. -/
def ofResult : Except Error Content → Response
  | .ok content => ⟨200, content⟩
  | .error e => ofError e

end Response

end GeoLayers.Http
