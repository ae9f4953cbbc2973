import RemotePlayback.Json.Value

/-!
Replies of the control API.
-/

namespace RemotePlayback.Control

/-- What a reply holds. -/
inductive Content where
  | empty
  | text (s : String)
  | json (v : Json)
  deriving Inhabited

/-- A reply. -/
structure Reply where
  status : Nat
  content : Content := .empty
  /-- The methods that the route allows, when another was used. -/
  allow : Option String := none
  /-- The request asked for the headers alone. -/
  headersOnly : Bool := false
  deriving Inhabited

namespace Reply

/-- A reply that says what went wrong. -/
def failure (status : Nat) (message : String) : Reply where
  status
  content := .json (Json.ofMembers [("error", .string message)])

/-- The name of a status. -/
def reason (status : Nat) : String :=
  if status = 200 then "OK"
  else if status = 204 then "No Content"
  else if status = 400 then "Bad Request"
  else if status = 404 then "Not Found"
  else if status = 405 then "Method Not Allowed"
  else if status = 409 then "Conflict"
  else "Bad Gateway"

/-- The line that a reply begins with. -/
def statusLine (r : Reply) : String := "HTTP/1.1 " ++ toString r.status ++ " " ++ reason r.status

/-- The body of the reply to a request for more than the headers. -/
def fullBody (r : Reply) : Bytes :=
  match r.content with
  | .empty => []
  | .text s => Bytes.ofText s
  | .json v => v.bytes

/-- The type of the content. -/
def contentType (r : Reply) : Option String :=
  match r.content with
  | .empty => none
  | .text _ => some "text/plain; charset=utf-8"
  | .json _ => some "application/json"

/-- The length of the content, which is not given where there never is any. -/
def contentLength (r : Reply) : Option Nat :=
  if r.status = 204 then none else some r.fullBody.length

/-- From where the reply may be read by a browser: from everywhere. -/
def allowOrigin (_ : Reply) : String := "*"

end Reply

end RemotePlayback.Control
