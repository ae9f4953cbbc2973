import RemotePlayback.Dealer.Frame

/-!
One connection to the dealer, seen from the side that writes.

Frames are handed over in a queue of limited length, in which the session puts its replies and the
keep-alive its pings; who finds the queue full waits, first come first served. The writer takes one
frame after the other and is gone for good after a failed write, after a closing frame, or when the
queue is empty and nobody is left to fill it. A failed write also cancels the connection.
-/

namespace RemotePlayback.Session

/-- Why a connection is closed. -/
inductive CloseReason where
  | normal
  | protocolError
  deriving DecidableEq, Inhabited

/-- A frame to write. -/
inductive Outbound where
  | text (s : String)
  | close (reason : CloseReason) (detail : String)
  deriving DecidableEq, Inhabited

/-- Who fills the queue. -/
inductive Sender where
  | session
  | keepalive
  deriving DecidableEq, Inhabited

/-- What the keep-alive is doing. -/
inductive Keepalive where
  /-- The handshake is still to come. -/
  | absent
  /-- Waits for its next ping to be due. -/
  | idle (next : Nat)
  /-- Waits for room in the queue; the ping after this one is due then. -/
  | sending (next : Nat)
  | gone
  deriving DecidableEq, Inhabited

/-- The writing side of a connection. -/
structure Connection where
  /-- How many connections there were, this one included. -/
  number : Nat
  queue : List Outbound := []
  /-- Frames that wait for room in the queue. -/
  waiting : List (Sender × Outbound) := []
  /-- The frame that is being written. -/
  writing : Option Outbound := none
  writerGone : Bool := false
  keepalive : Keepalive := .absent
  cancelled : Bool := false
  deriving DecidableEq, Inhabited

namespace Connection

/-- How many frames the queue holds, the one being written not counted. -/
def capacity : Nat := 64

/-- Whether a frame of a sender is still waiting for room. -/
def isWaiting (c : Connection) (who : Sender) : Bool := c.waiting.any (·.1 == who)

/-- Puts a frame into the queue or behind those that wait; `none` when the writer is gone. -/
def submit? (c : Connection) (who : Sender) (f : Outbound) : Option Connection :=
  if c.writerGone then none
  else if c.waiting = [] ∧ c.queue.length < capacity then some { c with queue := c.queue ++ [f] }
  else some { c with waiting := c.waiting ++ [(who, f)] }

/-! ## The writer -/

/-- Takes the next frame to write; the room goes to the first frame that waits for it. -/
def take? (c : Connection) : Option (Outbound × Connection) :=
  if c.writerGone ∨ c.writing.isSome then none
  else match c.queue with
    | [] => none
    | f :: queue =>
      some (f, { c with
        writing := some f
        queue := queue ++ (c.waiting.take 1).map (·.2)
        waiting := c.waiting.drop 1 })

/-- The end of the writer; what is still in the queue is lost. -/
def endWriter (c : Connection) : Connection :=
  { c with writerGone := true, writing := none, queue := [] }

/-- The frame being written is written, or has failed. -/
def wrote? (c : Connection) (ok : Bool) : Option Connection :=
  match c.writing with
  | none => none
  | some (.close ..) => some c.endWriter
  | some (.text _) =>
    if ok then some { c with writing := none } else some { c.endWriter with cancelled := true }

/-- Whether the keep-alive may still write. -/
def hasKeepalive (c : Connection) : Bool :=
  match c.keepalive with
  | .idle _ | .sending _ => true
  | _ => false

/-- Ends the writer when there is nothing to write and, the session having let go, never will be. -/
def exhausted? (c : Connection) : Option Connection :=
  if c.writerGone ∨ c.writing.isSome ∨ c.queue ≠ [] ∨ c.hasKeepalive then none
  else some c.endWriter

/-! ## The keep-alive -/

/-- Starts the keep-alive; the first ping is due at once. There are no pings without an interval. -/
def startKeepalive (c : Connection) (clock interval : Nat) : Connection :=
  { c with keepalive := if interval = 0 then .gone else .idle clock }

/-- The end of the keep-alive because nothing can be written any more, which ends the connection. -/
def giveUp (c : Connection) : Connection :=
  { c with
    keepalive := .gone
    cancelled := true
    waiting := c.waiting.filter fun w => w.1 != .keepalive }

/--
What the keep-alive does next, if anything. A ping that is late does not delay those after it, and
one that is due may still go out on a connection that is cancelled.
-/
def keepalive? (c : Connection) (clock interval : Nat) : Option Connection :=
  match c.keepalive with
  | .absent | .gone => none
  | .idle next =>
    if clock < next then none
    else match c.submit? .keepalive (.text Dealer.pingText) with
      | none => some c.giveUp
      | some c =>
        if c.isWaiting .keepalive then some { c with keepalive := .sending (next + interval) }
        else some { c with keepalive := .idle (next + interval) }
  | .sending next =>
    if c.isWaiting .keepalive then
      if c.writerGone then some c.giveUp else none
    else some { c with keepalive := .idle next }

/--
The end of the keep-alive because the connection is cancelled, or with `stopped` the whole session;
a ping that waits for room is not given up.
-/
def endKeepalive? (c : Connection) (stopped : Bool) : Option Connection :=
  match c.keepalive with
  | .idle _ => if stopped ∨ c.cancelled then some { c with keepalive := .gone } else none
  | _ => none

end Connection

end RemotePlayback.Session
