import RemotePlayback.Session.Step

/-! What of a session bears on its snapshots and its commands.

A session has fourteen stages and a connection with queues of its own, but only a few of its fields
decide what is published and where a command goes. `Core` keeps those and sorts the stages into
phases; `Change` lists everything that can happen to a core, each with the input that brings it
about, the conditions under which it happens and the effects by which others learn of it. -/

namespace RemotePlayback.Session

open Playback Dealer

/-- What holds of all that was there and of what is added holds of all that is there. -/
theorem forall_mem_concat {α : Type} {p : α → Prop} {old : List α} {new : α}
    (all : ∀ a ∈ old, p a) (one : p new) : ∀ a ∈ old ++ [new], p a :=
  List.forall_mem_append.mpr ⟨all, List.forall_mem_singleton.mpr one⟩

/-! ## Phases -/

/-- **How far an attempt is**: the stages as far as link and snapshot are concerned. -/
inductive Phase where
  /-- There is no connection yet. -/
  | seeking
  /-- The handshake is to come. -/
  | greeting
  /-- The device was announced under the id of the handshake. -/
  | announcing (connectionId : String)
  /-- The link is there, the first snapshot is not. -/
  | adopting (cluster : Cluster.State)
  /-- Link and snapshot belong together. -/
  | live
  /-- The connection is being closed; nothing is read from it any more. -/
  | spent
  /-- There is no attempt. -/
  | down

/-- The phase of a stage. -/
def Stage.phase : Stage → Phase
  | .resolving | .authorizing _ | .connecting => .seeking
  | .greeting => .greeting
  | .announcing id => .announcing id
  | .adopting cluster => .adopting cluster
  | .reading | .delivering .. | .replying => .live
  | .ending _ | .closing | .draining => .spent
  | .sleeping _ | .stopped => .down

/-- Whether an attempt can come to its end here. -/
def Phase.isOpen : Phase → Prop
  | .greeting | .announcing _ | .live => True
  | _ => False

/-! ## The core of a session -/

/-- What decides about snapshots and commands. -/
structure Core where
  config : Config
  epoch : Nat
  link : Option Link
  snapshot : Snapshot
  published : Nat
  calls : List Call
  callCount : Nat
  phase : Phase

/-- The core of a session. -/
def core (s : Session) : Core where
  config := s.config
  epoch := s.epoch
  link := s.link
  snapshot := s.snapshot
  published := s.published
  calls := s.calls
  callCount := s.callCount
  phase := s.stage.phase

/-- The snapshot of a cluster with its number and the attempt on which it was seen. -/
def stamped (config : Config) (c : Cluster.State) (rev epoch : Nat) : Snapshot :=
  { Snapshot.ofCluster c config.deviceId with
    rev
    epoch }

namespace Core

/-- The next snapshot. -/
def next (k : Core) (c : Cluster.State) (epoch : Nat) : Snapshot :=
  stamped k.config c (k.published + 1) epoch

/-- Publishes the next snapshot. -/
def publish (k : Core) (c : Cluster.State) (epoch : Nat) : Core :=
  { k with snapshot := k.next c epoch, published := k.published + 1 }

/-- Forgets a call. -/
def forget (k : Core) (number : Nat) : Core :=
  { k with calls := k.calls.filter (·.number != number) }

end Core

/-! ## Inputs and effects -/

/-- The cluster that a frame brings. -/
def pushed? (config : Config) (text : String) : Option Cluster.State :=
  match Frame.read text with
  | .ok (.notification uri _ payload) =>
    match Topic.ofUri uri config.userId with
    | .cluster => (Wire.decode? payload : Option Cluster.Update).bind (·.cluster)
    | _ => none
  | _ => none

/-- The frame that is read. -/
def Input.text? : Input → Option String
  | .received (.text text) => some text
  | _ => none

/-- The answer to an announcement. -/
def Input.announcement? : Input → Option Cluster.State
  | .announced (.ok cluster) => some cluster
  | _ => none

/-- Effects that have nothing to do with snapshots, reports and commands. -/
def Effect.isSilent : Effect → Prop
  | .publish _ | .report .. | .post _ => False
  | _ => True

/-- The snapshot that an effect publishes. -/
def Effect.snapshot? : Effect → Option Snapshot
  | .publish snapshot => some snapshot
  | _ => none

/-- No effect of these has anything to do with snapshots, reports and commands. -/
def Silent (effects : List Effect) : Prop := ∀ e ∈ effects, e.isSilent

theorem silent_nil : Silent [] := fun _ h => nomatch h

theorem Silent.cons {e : Effect} {effects : List Effect} (head : e.isSilent)
    (tail : Silent effects) : Silent (e :: effects) := by
  intro e' he
  rcases List.mem_cons.mp he with rfl | he
  · exact head
  · exact tail e' he

theorem Silent.publishes_nothing {effects : List Effect} (h : Silent effects) :
    effects.filterMap Effect.snapshot? = [] := by
  refine List.filterMap_eq_nil_iff.mpr fun e he => ?_
  cases e with
  | publish snapshot => exact (h _ he).elim
  | _ => rfl

/-! ## Changes -/

/-- **A step, seen from the core**: the input, the core after it and the effects. -/
inductive Change (k : Core) : Input → Core → List Effect → Prop where
  /-- Nothing that matters here; before the handshake nothing is read. -/
  | quiet {i effects} (text : i.text? = none ∨ k.phase = .live) (answer : i.announcement? = none)
      (silent : Silent effects) : Change k i k effects
  | connect {answer} (phase : k.phase = .seeking) :
      Change k (.connected answer) { k with phase := .greeting } []
  | greet {text frame id report} (phase : k.phase = .greeting) (read : Frame.read text = .ok frame)
      (handshake : frame.connectionId? = some id) :
      Change k (.received (.text text)) { k with phase := .announcing id } [.report none id report]
  | announced {id cluster} (phase : k.phase = .announcing id) :
      Change k (.announced (.ok cluster))
        { k with phase := .adopting cluster, link := some ⟨id, k.epoch⟩ } []
  | adopt {cluster} (phase : k.phase = .adopting cluster) :
      Change k .proceed { k.publish cluster k.epoch with phase := .live }
        [.publish (k.next cluster k.epoch)]
  | push {text cluster} (phase : k.phase = .live) (pushed : pushed? k.config text = some cluster) :
      Change k (.received (.text text)) (k.publish cluster k.epoch)
        [.publish (k.next cluster k.epoch)]
  /-- An attempt fails, or is cancelled, wherever it waits for the connection. -/
  | fall {i effects} (phase : k.phase.isOpen) (silent : Silent effects) :
      Change k i { k with phase := .spent } effects
  /-- Of the attempt only the snapshot is left. -/
  | finish {i} (phase : k.phase = .seeking ∨ k.phase = .spent) :
      Change k i { k with phase := .down, link := none } []
  | attempt {effects} (phase : k.phase = .down) (silent : Silent effects) :
      Change k .wake { k with phase := .seeking, epoch := k.epoch + 1 } effects
  | report {player link body} (linked : k.link = some link) (seen : k.snapshot.epoch = link.epoch) :
      Change k (.report player)
        { k with calls := k.calls ++ [⟨k.callCount + 1, link⟩], callCount := k.callCount + 1 }
        [.report (some (k.callCount + 1)) link.connectionId body]
  /-- The answer to a report comes too late, is older, or is a failure. -/
  | drop {call answer} (pending : call ∈ k.calls) :
      Change k (.reported call.number answer) (k.forget call.number) []
  /-- The answer to a report is published, by the link on which the report went out. -/
  | answer {call cluster} (pending : call ∈ k.calls) (linked : k.link = some call.link)
      (seen : k.snapshot.epoch = call.link.epoch)
      (fresh : k.snapshot.timestamp ≤ (Snapshot.ofCluster cluster k.config.deviceId).timestamp) :
      Change k (.reported call.number (.ok cluster))
        ((k.forget call.number).publish cluster call.link.epoch)
        [.publish (k.next cluster call.link.epoch)]
  | post {command : Command} {link post} (linked : k.link = some link)
      (seen : k.snapshot.epoch = link.epoch)
      (active : k.snapshot.activeDeviceId = some post.receiver)
      (sender : post.sender = k.config.deviceId) (body : post.body = command.envelope) :
      Change k (.command command) k [.post post]

/-- **What makes a session publish**: the answer to the announcement, a push, or the answer to a
report. -/
inductive Publishes (k : Core) : Input → Cluster.State → (epoch : Nat) → Prop where
  | adopted {cluster} (phase : k.phase = .adopting cluster) : Publishes k .proceed cluster k.epoch
  | pushed {text cluster} (phase : k.phase = .live)
      (pushed : pushed? k.config text = some cluster) :
      Publishes k (.received (.text text)) cluster k.epoch
  | answered {call cluster} (pending : call ∈ k.calls) (linked : k.link = some call.link)
      (seen : k.snapshot.epoch = call.link.epoch)
      (fresh : k.snapshot.timestamp ≤ (Snapshot.ofCluster cluster k.config.deviceId).timestamp) :
      Publishes k (.reported call.number (.ok cluster)) cluster call.link.epoch

/-! ## What a change amounts to -/

section Inversion

variable {k k' : Core} {i : Input} {effects : List Effect}

/-- A session keeps what it was told at its start. -/
theorem Change.config (h : Change k i k' effects) : k'.config = k.config := by
  cases h <;> rfl

/-- A step publishes nothing, or one snapshot, which then is the current one. -/
theorem Change.publishes_or (h : Change k i k' effects) :
    (effects.filterMap Effect.snapshot? = [] ∧ k'.snapshot = k.snapshot ∧
        k'.published = k.published) ∨
      ∃ c epoch, Publishes k i c epoch ∧ effects = [.publish (k.next c epoch)] ∧
        k'.snapshot = k.next c epoch ∧ k'.published = k.published + 1 := by
  cases h with
  | quiet _ _ silent | fall _ silent | attempt _ silent =>
    exact .inl ⟨silent.publishes_nothing, rfl, rfl⟩
  | connect | greet | announced | finish | report | drop | post => exact .inl ⟨rfl, rfl, rfl⟩
  | adopt phase => exact .inr ⟨_, _, .adopted phase, rfl, rfl, rfl⟩
  | push phase pushed => exact .inr ⟨_, _, .pushed phase pushed, rfl, rfl, rfl⟩
  | answer pending linked seen fresh =>
    exact .inr ⟨_, _, .answered pending linked seen fresh, rfl, rfl, rfl⟩

/-- The pending calls are those of before, but for one that is answered or one that is made. -/
theorem Change.calls_or (h : Change k i k' effects) :
    (k'.callCount = k.callCount ∧ k'.calls.Sublist k.calls) ∨
      ∃ link, k.link = some link ∧ k.snapshot.epoch = link.epoch ∧
        (∃ body, effects = [.report (some (k.callCount + 1)) link.connectionId body]) ∧
        k'.callCount = k.callCount + 1 ∧ k'.calls = k.calls ++ [⟨k.callCount + 1, link⟩] := by
  cases h with
  | report linked seen => exact .inr ⟨_, linked, seen, ⟨_, rfl⟩, rfl, rfl⟩
  | drop | answer => exact .inl ⟨rfl, List.filter_sublist⟩
  | quiet | connect | greet | announced | adopt | push | fall | finish | attempt | post =>
    exact .inl ⟨rfl, .refl _⟩

/-- Only a caller's command is posted, by the snapshot of the link. -/
theorem Change.posts {post : Post} (h : Change k i k' effects) (mem : .post post ∈ effects) :
    ∃ command link, i = .command command ∧ effects = [.post post] ∧ k.link = some link ∧
      k.snapshot.epoch = link.epoch ∧ k.snapshot.activeDeviceId = some post.receiver ∧
      post.sender = k.config.deviceId ∧ post.body = command.envelope := by
  cases h with
  | post linked seen active sender body =>
    cases List.mem_singleton.mp mem
    exact ⟨_, _, rfl, rfl, linked, seen, active, sender, body⟩
  | quiet _ _ silent | fall _ silent | attempt _ silent => exact (silent _ mem).elim
  | connect | announced | finish | drop => cases mem
  | greet | adopt | push | report | answer => cases List.mem_singleton.mp mem

/-- A step begins an attempt, or stays on the current one. -/
theorem Change.attempts_or (h : Change k i k' effects) :
    (k.phase = .down ∧ k'.phase = .seeking ∧ k'.epoch = k.epoch + 1) ∨
      (¬(k.phase = .down ∧ k'.phase = .seeking) ∧ k'.epoch = k.epoch) := by
  cases h with
  | attempt phase => exact .inl ⟨phase, rfl, rfl⟩
  | quiet | push | report | drop | answer | post =>
    refine .inr ⟨fun ⟨down, seeking⟩ => ?_, rfl⟩
    exact absurd (down.symm.trans seeking) nofun
  | connect | greet | announced | adopt | fall | finish => exact .inr ⟨nofun, rfl⟩

end Inversion

end RemotePlayback.Session
