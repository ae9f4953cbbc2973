import RemotePlayback.Text.Blank

/-!
The routes of the control API.

A path is matched segment by segment as it is written. A route shows the state or does something
with the session; some carry an argument, which is one segment and not empty.
-/

namespace RemotePlayback.Control

/-- A route, with its argument as it is written. -/
inductive Route where
  | state
  | command (name : List Char)
  | pause
  | resume
  | next
  | previous
  | takeover
  | seek (position : List Char)
  | shuffle (on : List Char)
  | «repeat» (mode : List Char)
  deriving DecidableEq, Inhabited

namespace Route

/-- The part of a request's target before the query. -/
def pathOf (target : String) : List Char :=
  target.toList.takeWhile fun c => c ≠ '?' && c ≠ '#'

/-- The route of a name behind the root of the API. -/
def ofName? (name : String) : Option Route :=
  if name = "state" then some .state
  else if name = "pause" then some .pause
  else if name = "resume" then some .resume
  else if name = "next" then some .next
  else if name = "prev" then some .previous
  else if name = "takeover" then some .takeover
  else none

/-- The route of a name and an argument behind the root of the API. -/
def ofArgument? (name : String) (argument : List Char) : Option Route :=
  if argument = [] then none
  else if name = "command" then some (.command argument)
  else if name = "seek" then some (.seek argument)
  else if name = "shuffle" then some (.shuffle argument)
  else if name = "repeat" then some (.repeat argument)
  else none

/-- The route of a path. -/
def ofPath? (path : List Char) : Option Route :=
  match Text.splitAll '/' path with
  | [[], api, name] => if api = "api".toList then ofName? (String.ofList name) else none
  | [[], api, name, argument] =>
    if api = "api".toList then ofArgument? (String.ofList name) argument else none
  | _ => none

/-- The methods that a route allows. -/
def methods : Route → List String
  | state => ["GET", "HEAD"]
  | _ => ["POST"]

end Route

end RemotePlayback.Control
