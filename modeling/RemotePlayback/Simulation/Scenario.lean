import RemotePlayback.Control.Handle
import RemotePlayback.Simulation.World

/-!
Scenarios: a session and a list of things that are done to it, one after the other.

After each step everything runs to rest. What is shown of a step is its result, what happened in the
meantime, and what can be seen of the session from outside.
-/

namespace RemotePlayback.Simulation

open Playback Session

/-- Something done to a session, or to the world around it. -/
inductive Step where
  | receive (r : Received)
  | advance (ms : Nat)
  | setNow (now : Int64)
  | setToken (token : Option String)
  | queueAnswers (answers : List (Except Failure Cluster.State))
  | queueConnects (connects : List (Except Failure Unit))
  | holdReport
  | releaseReport
  | failCommands (cause : Option Failure)
  | failWrites (on : Bool)
  | blockWrites (on : Bool)
  | dropPlayer
  | hang (who : Option Collaborator)
  | subscribe
  | pollUpdates
  | command (c : Command)
  | takeover
  | report (player : Cluster.PlayerState)
  | request (r : Control.Request)
  | cancel

/-- What a subscriber sees. -/
structure Update where
  changed : Bool
  rev : Nat
  epoch : Nat
  activeDeviceId : Option String
  deriving DecidableEq, Inhabited

/-- The result of a step. -/
inductive StepResult where
  | ok
  | started
  | noConnection
  | failed (cause : Failure)
  | released (something : Bool)
  | updates (us : List Update)
  | replied (r : Control.Reply)

namespace World

/-- Whether the connection is still read from. -/
def isReading (w : World) : Bool := w.session.connection.isSome

/-- What comes of a post. -/
def post (w : World) (_ : Post) : Except Failure Unit :=
  match w.commandFailure with
  | some cause => .error cause
  | none => .ok ()

/-- Sends a command; once it is posted, its result is what comes of that. -/
def command (w : World) (c : Command) : StepResult × World :=
  let (routed, r) := w.session.send c
  match routed.bind w.post with
  | .ok () => (.ok, w.after r)
  | .error cause => (.failed cause, w.after r)

/-- Takes playback over. -/
def takeover (w : World) : StepResult × World :=
  match w.session.takeover with
  | .ok event => (.ok, w.perform (.deliver event))
  | .error cause => (.failed cause, w)

/-- Reports the local player; outside of a ready session that has its result at once. -/
def report (w : World) (player : Cluster.PlayerState) : World :=
  let (reporting, r) := w.session.report player
  let w := w.after r
  match reporting with
  | .sent _ => w
  | .done result => { w with log.published := w.log.published ++ [result] }

/-- Answers a request to the control API. -/
def request (w : World) (r : Control.Request) : Control.Reply × World :=
  let (reply, deed) := Control.handle w.session w.post r
  let w :=
    match deed with
    | none => w
    | some (.posted post) => w.perform (.post post)
    | some (.delivered event) => w.perform (.deliver event)
  (reply, w)

/-- Lets the held report be answered; failing that, the next one is not held. The answer tells
whether there was anything to release. -/
def release (w : World) : Bool × World :=
  (w.holding || w.unanswered.any (·.held), { w with
    holding := false
    unanswered := w.unanswered.map fun u => { u with held := false } })

/-- Holds the next report in place of the one that is held now. -/
def hold (w : World) : World := { w.release.2 with holding := true }

/-- What the subscribers see; afterwards they have seen it. -/
def poll (w : World) : List Update × World :=
  let s := w.session.snapshot
  (w.subscribers.map fun seen => ⟨seen != s.rev, s.rev, s.epoch, s.activeDeviceId⟩,
    { w with subscribers := w.subscribers.map fun _ => s.rev })

/-- Does a step, without letting anything run. -/
def start (w : World) : Step → StepResult × World
  | .receive r =>
    if w.isReading then (.ok, { w with incoming := w.incoming ++ [r] }) else (.noConnection, w)
  | .advance ms => (.ok, w.advance ms)
  | .setNow now => (.ok, { w with session.now := now })
  | .setToken token => (.ok, { w with token })
  | .queueAnswers answers => (.ok, { w with answers := w.answers ++ answers })
  | .queueConnects connects => (.ok, { w with connects := w.connects ++ connects })
  | .holdReport => (.ok, w.hold)
  | .releaseReport => let (something, w) := w.release; (.released something, w)
  | .failCommands cause => (.ok, { w with commandFailure := cause })
  | .failWrites on => (.ok, { w with failWrites := on })
  | .blockWrites on => (.ok, { w with blockWrites := on })
  | .dropPlayer => (.ok, { w with hasPlayer := false })
  | .hang who => (.ok, { w with hanging := who })
  | .subscribe => (.ok, { w with subscribers := w.subscribers ++ [w.session.snapshot.rev] })
  | .pollUpdates => let (us, w) := w.poll; (.updates us, w)
  | .command c => w.command c
  | .takeover => w.takeover
  | .report player => (.started, w.report player)
  | .request r => let (reply, w) := w.request r; (.replied reply, w)
  | .cancel => (.ok, { w with session.cancelled := true })

/-- Does a step and lets everything run; the log holds what happened since the step began. -/
def step (w : World) (s : Step) : StepResult × World :=
  let (r, w) := { w with log := {} }.start s
  (r, w.settle)

/-- The world in which a session has just begun and run to rest. -/
def begin (w : World) : World :=
  (w.after (Session.start w.session.config w.session.now)).settle

end World

/-! ## Notifications that a late receiver gets -/

/-- How many notifications are kept for a receiver. -/
def kept : Nat := 64

/-- What a receiver gets of the notifications sent since it last looked: how many it missed, and the
rest. -/
def received {α : Type} (sent : List α) : Nat × List α :=
  (sent.length - kept, sent.drop (sent.length - kept))

end RemotePlayback.Simulation
