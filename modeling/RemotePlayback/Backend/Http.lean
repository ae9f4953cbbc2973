import RemotePlayback.Bytes
import RemotePlayback.Failure
import RemotePlayback.Text.Blank

/-!
Requests to the backend and its responses.
-/

namespace RemotePlayback.Backend

/-- A request that is to be sent. -/
structure Request where
  method : String
  url : String
  /-- The headers, their names in lower case. -/
  headers : List (String × String)
  body : Bytes
  deriving DecidableEq, Inhabited

/-- A response. -/
structure Response where
  status : Nat
  /-- The headers, their names in lower case. -/
  headers : List (String × String)
  content : Bytes
  deriving DecidableEq, Inhabited

/-- The value of a header. -/
def findHeader? (name : String) (headers : List (String × String)) : Option String :=
  (headers.find? (·.1 == name)).map (·.2)

/-- The name of the software, as it is given to servers. -/
def userAgent : String := "connectd/0.1.0"

/-- A request, if it can be sent; its headers must not hold controls other than the tab. -/
def Request.checked (r : Request) : Except Failure Request :=
  if r.headers.all fun h => h.2.toList.all Text.isVisible then .ok r else .error .network

/-- The access token, without which nothing is sent. -/
def requireToken (token : Option String) : Except Failure String :=
  match token.bind Text.nonEmpty? with
  | some t => .ok t
  | none => .error (.transport "no access token configured")

namespace Response

/-- The statuses of responses without a body. -/
def isBodyless (status : Nat) : Bool := status < 200 || status = 204 || status = 304

/-- The body of a response. -/
def body (r : Response) : Bytes := if isBodyless r.status then [] else r.content

/-- Whether the request was carried out. -/
def isSuccess (r : Response) : Bool := 200 ≤ r.status && r.status < 300

/-- The statuses and their names. -/
def reasons : List (Nat × String) := [
  (100, "Continue"), (101, "Switching Protocols"), (102, "Processing"), (200, "OK"),
  (201, "Created"), (202, "Accepted"), (203, "Non Authoritative Information"),
  (204, "No Content"), (205, "Reset Content"), (206, "Partial Content"), (207, "Multi-Status"),
  (208, "Already Reported"), (226, "IM Used"), (300, "Multiple Choices"),
  (301, "Moved Permanently"), (302, "Found"), (303, "See Other"), (304, "Not Modified"),
  (305, "Use Proxy"), (307, "Temporary Redirect"), (308, "Permanent Redirect"),
  (400, "Bad Request"), (401, "Unauthorized"), (402, "Payment Required"), (403, "Forbidden"),
  (404, "Not Found"), (405, "Method Not Allowed"), (406, "Not Acceptable"),
  (407, "Proxy Authentication Required"), (408, "Request Timeout"), (409, "Conflict"),
  (410, "Gone"), (411, "Length Required"), (412, "Precondition Failed"),
  (413, "Payload Too Large"), (414, "URI Too Long"), (415, "Unsupported Media Type"),
  (416, "Range Not Satisfiable"), (417, "Expectation Failed"), (418, "I'm a teapot"),
  (421, "Misdirected Request"), (422, "Unprocessable Entity"), (423, "Locked"),
  (424, "Failed Dependency"), (425, "Too Early"), (426, "Upgrade Required"),
  (428, "Precondition Required"), (429, "Too Many Requests"),
  (431, "Request Header Fields Too Large"), (451, "Unavailable For Legal Reasons"),
  (500, "Internal Server Error"), (501, "Not Implemented"), (502, "Bad Gateway"),
  (503, "Service Unavailable"), (504, "Gateway Timeout"), (505, "HTTP Version Not Supported"),
  (506, "Variant Also Negotiates"), (507, "Insufficient Storage"), (508, "Loop Detected"),
  (510, "Not Extended"), (511, "Network Authentication Required")]

/-- A status as it is shown. -/
def statusText (status : Nat) : String :=
  toString status ++ " " ++ (reasons.lookup status).getD "<unknown status code>"

/-- Why a response is not a success. -/
def refusal (r : Response) (what : String) : Failure :=
  .transport (what ++ ": HTTP " ++ statusText r.status)

end Response

end RemotePlayback.Backend
