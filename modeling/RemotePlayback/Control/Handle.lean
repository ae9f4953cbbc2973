import RemotePlayback.Control.Reply
import RemotePlayback.Control.Route
import RemotePlayback.Session.Step
import RemotePlayback.Text.Decimal
import RemotePlayback.Text.Media
import RemotePlayback.Text.Percent
import RemotePlayback.Text.Quoted

/-!
What the control API does with a request.

A request is first understood, which gives an `Action` or a reply that refuses it; nothing is done
before. The action is then carried out on the session. Preconditions of the session that are not met
are conflicts, and any other failure is that of the backend.
-/

namespace RemotePlayback.Control

open Playback Session

/-- A request. -/
structure Request where
  method : String
  target : String
  contentType : Option String := none
  body : Bytes := []
  deriving Inhabited

/-- What a request wants done. -/
inductive Action where
  | showState
  | send (command : Command)
  | takeOver
  deriving Inhabited

/-- What was done to the world around the session. -/
inductive Deed where
  | posted (post : Post)
  | delivered (event : Event)
  deriving Inhabited

/-! ## Understanding -/

/-- Refuses a request because of an argument. -/
def badArgument (message : String) : Reply where
  status := 400
  content := .text ("Invalid URL: " ++ message)

/-- The text of an argument. -/
def argument (name : String) (written : List Char) : Except Reply String :=
  match Text.unescapePercents? written with
  | some s => .ok s
  | none => .error (badArgument ("Invalid UTF-8 in `" ++ name ++ "`"))

/-- How many bytes of a body are taken; a longer one is not read at all. -/
def maxBody : Nat := 2 ^ 21

/-- The JSON value of the body; none when it is not declared to be JSON or is not, or is too long.
-/
def bodyValue? (r : Request) : Option Json :=
  if r.contentType.any Text.isJsonMedia ∧ r.body.length ≤ maxBody then Json.parsePart? r.body
  else none

/-- The parameters of a command: the members of the body, none without a body. -/
def parameters (r : Request) : Except Reply (List (String × Json)) :=
  match bodyValue? r with
  | none | some .null => .ok []
  | some (.object members) => .ok members
  | some _ => .error (.failure 400 "body must be a JSON object")

/-- The position of a seek, in milliseconds. -/
def position (s : String) : Except Reply Span :=
  match Text.word64? s.toList with
  | some n => .ok (Span.ofMilliseconds n)
  | none => .error (badArgument ("Cannot parse `" ++ Text.quoted s ++ "` to a `u64`"))

/-- Whether shuffling is wanted. -/
def shuffling (s : String) : Except Reply Bool :=
  if s ∈ ["on", "true", "1"] then .ok true
  else if s ∈ ["off", "false", "0"] then .ok false
  else .error (.failure 400 ("invalid shuffle value `" ++ s ++ "`"))

/-- The mode of repeating that is wanted. -/
def repeating (s : String) : Except Reply Repeat :=
  match Repeat.ofName? s with
  | some mode => .ok mode
  | none => .error (.failure 400 ("invalid repeat mode `" ++ s ++ "`"))

/-- What a request on a route wants done. -/
def Route.action (route : Route) (r : Request) : Except Reply Action :=
  match route with
  | .state => .ok .showState
  | .command name => do
    let name ← argument "endpoint" name
    let parameters ← parameters r
    return .send ⟨name, parameters⟩
  | .pause => .ok (.send .pause)
  | .resume => .ok (.send .resume)
  | .next => .ok (.send .skipNext)
  | .previous => .ok (.send .skipPrevious)
  | .takeover => .ok .takeOver
  | .seek written => do
    let position ← position (← argument "ms" written)
    return .send (.seekTo position)
  | .shuffle written => do
    let on ← shuffling (← argument "on" written)
    return .send (.setShuffle on)
  | .repeat written => do
    let mode ← repeating (← argument "mode" written)
    return .send (.setRepeat mode)

/-- What a request wants done. Asking for the options of a path is answered without the route. -/
def action (r : Request) : Except Reply Action :=
  let route := Route.ofPath? (Route.pathOf r.target)
  let allow := route.map fun route => ",".intercalate route.methods
  if r.method = "OPTIONS" then .error { status := 200, allow }
  else match route with
    | none => .error { status := 404 }
    | some route =>
      if r.method ∈ route.methods then route.action r else .error { status := 405, allow }

/-! ## Doing -/

/-- The state as it is shown. -/
def stateJson (s : Session) : Json :=
  Json.ofMembers (s.snapshot.toMembers ++ [
    ("device_id", .string s.config.deviceId),
    ("connected", .bool s.connectionId?.isSome),
    ("position_ms", Json.ofNat ((s.snapshot.positionAt s.now).milliseconds % 2 ^ 64))])

/-- The reply to a call of the session. -/
def callReply : Except Failure Unit → Reply
  | .ok () => { status := 204 }
  | .error cause => .failure (if cause.isPrecondition then 409 else 502) cause.message

/-- Carries an action out; `backend` tells what comes of a post. -/
def carryOut (s : Session) (backend : Post → Except Failure Unit) : Action → Reply × Option Deed
  | .showState => ({ status := 200, content := .json (stateJson s) }, none)
  | .send command =>
    match s.command command with
    | .ok post => (callReply (backend post), some (.posted post))
    | .error cause => (callReply (.error cause), none)
  | .takeOver =>
    match s.takeover with
    | .ok event => (callReply (.ok ()), some (.delivered event))
    | .error cause => (callReply (.error cause), none)

/-- The reply to a request, and what was done for it. -/
def handle (s : Session) (backend : Post → Except Failure Unit) (r : Request) :
    Reply × Option Deed :=
  match action r with
  | .error reply => (reply, none)
  | .ok action =>
    let (reply, deed) := carryOut s backend action
    ({ reply with headersOnly := r.method == "HEAD" }, deed)

end RemotePlayback.Control
