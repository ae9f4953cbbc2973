import RemotePlayback.Session.Step

/-!
A session among collaborators that follow a script, on a clock that is moved by hand.

The collaborators answer at once, unless the script makes them wait. An announcement is answered
only after the first ping of the connection was handed to it, so that every announced connection has
shown to be alive. `World.settle` lets everything run that can run while the clock stands still: the
session goes first, so that it reads all there is to read before anything else happens, then its
keep-alive, then the writer, and the backend is the last to answer.
-/

namespace RemotePlayback.Simulation

open Playback Session

/-- Who may be made to never answer again. -/
inductive Collaborator where
  | token
  | connect
  | resolver
  deriving DecidableEq, Inhabited

/-- What became of a frame. -/
inductive Sent where
  | text (connection : Nat) (s : String)
  | failed (connection : Nat) (s : String)
  | closed (connection : Nat) (reason : CloseReason) (detail : String)
  deriving DecidableEq, Inhabited

/-- What happened, each kind of event in its order. -/
structure Log where
  connects : List String := []
  repointed : List String := []
  sent : List Sent := []
  reports : List (String × Cluster.StateReport) := []
  posts : List Post := []
  published : List (Except Failure Unit) := []
  events : List Event := []
  collection : List Collection.Change := []
  rootlists : Nat := 0
  deriving Inhabited

/-- A report that is not answered yet; no call means the announcement of an attempt. -/
structure Unanswered where
  call : Option Nat
  held : Bool
  deriving DecidableEq, Inhabited

/-- The session and everything around it. -/
structure World where
  session : Session
  /-- What comes of the next attempts to connect; all further ones succeed. -/
  connects : List (Except Failure Unit) := []
  /-- The next answers to reports; all further ones are an empty cluster. -/
  answers : List (Except Failure Cluster.State) := []
  /-- The next answers of the directory, which then gives the same endpoints again and again. -/
  resolutions : List (Except Failure Endpoints) := []
  endpoints : Endpoints
  token : Option String
  hanging : Option Collaborator := none
  /-- The call under way is one that is never answered. -/
  callHangs : Bool := false
  /-- Somebody receives the instructions for the local player. -/
  hasPlayer : Bool := true
  commandFailure : Option Failure := none
  failWrites : Bool := false
  blockWrites : Bool := false
  /-- What the connection has still to read. -/
  incoming : List Received := []
  /-- The first ping of the connection was handed to it. -/
  pinged : Bool := false
  /-- The next report is to be held. -/
  holding : Bool := false
  unanswered : List Unanswered := []
  /-- The snapshots that the subscribers have seen, by their number. -/
  subscribers : List Nat := []
  log : Log := {}

namespace World

/-! ## Doing what the session asks for -/

/-- Remembers whether the call that begins will ever be answered. -/
def beginCall (w : World) (who : Collaborator) : World :=
  { w with callHangs := w.hanging == some who }

/-- Lets an effect of the session take place. -/
def perform (w : World) (e : Effect) : World :=
  let log := w.log
  match e with
  | .resolve => w.beginCall .resolver
  | .repoint url => { w with log.repointed := log.repointed ++ [url] }
  | .authorize => w.beginCall .token
  | .connect url => { w with log.connects := log.connects ++ [url] }.beginCall .connect
  | .write connection (.close reason detail) =>
    { w with log.sent := log.sent ++ [.closed connection reason detail] }
  | .write _ (.text s) => { w with pinged := w.pinged || s == Dealer.pingText }
  | .report call id report => { w with
      unanswered := w.unanswered ++ [⟨call, w.holding⟩]
      holding := false
      log.reports := log.reports ++ [(id, report)] }
  | .post post => { w with log.posts := log.posts ++ [post] }
  | .deliver event => if w.hasPlayer then { w with log.events := log.events ++ [event] } else w
  | .publish _ => w
  | .collectionChanged change => { w with log.collection := log.collection ++ [change] }
  | .rootlistChanged => { w with log.rootlists := log.rootlists + 1 }

/-- Whether a report still waits for its answer; an announcement does not outlive its attempt. -/
def isWaited (s : Session) (u : Unanswered) : Bool :=
  match u.call, s.stage with
  | some _, _ | none, .announcing _ => true
  | none, _ => false

/-- The world after a step of the session. -/
def after (w : World) (r : Result) : World :=
  let w := r.2.foldl perform { w with session := r.1 }
  { w with unanswered := w.unanswered.filter (isWaited w.session) }

/-- The world after an input to the session, if that can happen now. -/
def input? (w : World) (i : Input) : Option World := (w.session.step? i).map w.after

/-! ## Whose turn it is -/

/-- The endpoints that the directory gives next. -/
def resolve (w : World) : Except Failure Endpoints × World :=
  match w.resolutions with
  | [] => (.ok w.endpoints, w)
  | r :: rest => (r, { w with resolutions := rest })

/-- The token, if there is one. -/
def authorize (w : World) : Except Failure String :=
  match w.token.bind Text.nonEmpty? with
  | some token => .ok token
  | none => .error (.transport "no access token configured")

/-- What comes of the attempt to connect; a new connection has nothing to read yet. -/
def connect (w : World) : Except Failure Unit × World :=
  let w := { w with incoming := [], pinged := false }
  match w.connects with
  | [] => (.ok (), w)
  | r :: rest => (r, { w with connects := rest })

/-- The answer to a report. -/
def answer (w : World) : Except Failure Cluster.State × World :=
  match w.answers with
  | [] => (.ok {}, w)
  | r :: rest => (r, { w with answers := rest })

/-- Answers the call that the session waits for. -/
def answerCall? (w : World) : Option World :=
  if w.callHangs then none
  else match w.session.stage with
    | .resolving => let (r, w) := w.resolve; w.input? (.resolved r)
    | .authorizing _ => w.input? (.authorized w.authorize)
    | .connecting => let (r, w) := w.connect; w.input? (.connected r)
    | _ => none

/-- Gives the session the next thing to read. -/
def read? (w : World) : Option World :=
  match w.incoming with
  | [] => none
  | r :: rest => { w with incoming := rest }.input? (.received r)

/-- Ends the write of a text, unless writes are blocked; the end of the connection is written. -/
def endWrite? (w : World) : Option World :=
  match w.session.connection with
  | none => none
  | some c =>
    match c.writing with
    | none => none
    | some (.close ..) => w.input? (.wrote true)
    | some (.text s) =>
      if w.blockWrites then none
      else if w.failWrites then
        { w with log.sent := w.log.sent ++ [Sent.failed c.number s] }.input? (.wrote false)
      else
        { w with log.sent := w.log.sent ++ [Sent.text c.number s] }.input? (.wrote true)

/-- Whether a report may be answered: it is not held, and its connection has shown to be alive. -/
def isDue (w : World) (u : Unanswered) : Bool := !u.held && (u.call.isSome || w.pinged)

/-- Answers the first report that may be answered. -/
def answerReport? (w : World) : Option World :=
  match w.unanswered.find? w.isDue with
  | none => none
  | some u =>
    let (r, w) := { w with unanswered := w.unanswered.erase u }.answer
    match u.call with
    | none => w.input? (.announced r)
    | some call =>
      { w with log.published := w.log.published ++ [r.map fun _ => ()] }.input? (.reported call r)

/-- The next thing that happens while the clock stands still. -/
def turn? (w : World) : Option World :=
  (w.input? .proceed) <|> (w.input? .wake) <|> (w.input? (.delivered w.hasPlayer)) <|>
    w.answerCall? <|> w.read? <|> (w.input? .endKeepalive) <|> (w.input? .ping) <|>
    w.endWrite? <|> (w.input? .write) <|> w.answerReport?

/-- Lets everything run, so many turns at most. -/
def settleWithin : (turns : Nat) → World → World
  | 0, w => w
  | turns + 1, w =>
    match w.turn? with
    | none => w
    | some w => settleWithin turns w

/-- More turns than any script takes without the clock moving, attempts without end aside. -/
def maxTurns : Nat := 1000000

/-- Lets everything run that can run while the clock stands still. -/
def settle (w : World) : World := settleWithin maxTurns w

/-- Lets so many milliseconds pass, everything running to rest after each. -/
def advance : (ms : Nat) → World → World
  | 0, w => w
  | ms + 1, w => advance ms (w.after ({ w.session with clock := w.session.clock + 1 }, [])).settle

end World

end RemotePlayback.Simulation
