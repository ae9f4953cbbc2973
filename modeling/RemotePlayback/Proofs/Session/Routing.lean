import RemotePlayback.Proofs.Session.Publication

/-! Commands go where the current connection says.

A command is routed by the active device of the current snapshot, and the snapshot outlives the
connection on which it was seen. Between the loss of a connection and the first snapshot of the next
one there are many states in which an old snapshot stands beside no link, or beside the new link. In
all of them commands are refused, so that none is ever routed by what an earlier connection showed.
-/

namespace RemotePlayback.Session

open Playback Dealer

variable {config : Config} {now : Int64} {ms : List Moment} {s : Session}

/-- Sending a command leaves the session as it is. -/
theorem send_session (s : Session) (c : Command) : (s.send c).2.1 = s := by
  have routed := send_routed s c
  generalize s.send c = sent at routed ⊢
  cases routed <;> rfl

/-- The current snapshot, once something was published, is what was published last. -/
theorem Run.snapshot_mem_publications (run : Run config now ms s) (seen : 0 < s.snapshot.epoch) :
    s.snapshot ∈ publications ms := by
  have last : s.snapshot = (publications ms).getLast?.getD {} := run.counted.last
  cases some : (publications ms).getLast? with
  | none =>
    rw [last, some] at seen
    cases seen
  | some n =>
    rw [last, some]
    exact List.mem_of_getLast? some

/-- A link is the one of the current attempt. -/
theorem Run.link_epoch {link : Link} (run : Run config now ms s) (linked : s.link = some link) :
    link.epoch = attempts ms := by
  rw [← run.counted.epoch]
  exact run.placed.link_epoch linked

/-- A snapshot that belongs to the link was observed on the current attempt. -/
theorem Run.observed_of_linked {link : Link} (run : Run config now ms s)
    (linked : s.link = some link) (seen : s.snapshot.epoch = link.epoch) :
    ∃ c, Observed config ms (attempts ms) c ∧
      s.snapshot = stamped config c s.snapshot.rev (attempts ms) := by
  have on : s.snapshot.epoch = attempts ms := seen.trans (run.link_epoch linked)
  have begun : 0 < s.snapshot.epoch := by
    rw [on, ← run.counted.epoch]
    exact run.placed.begun
  rw [← on]
  exact run.published.observed s.snapshot (run.snapshot_mem_publications begun)

/-- **How a command was posted** at a moment of a run: by a caller, alone, on the link of the
attempt then under way, and to the active device of a snapshot that was observed on that attempt. -/
structure Posted (config : Config) (past : List Moment) (m : Moment) (command : Command)
    (post : Post) : Prop where
  input : m.input = .command command
  once : m.effects = [.post post]
  unchanged : m.after = m.before
  linked : ∃ id, m.before.link = some ⟨id, attempts past⟩
  active : m.before.snapshot.activeDeviceId = some post.receiver
  sender : post.sender = config.deviceId
  body : post.body = command.envelope
  observed : ∃ c, Observed config past (attempts past) c ∧
    m.before.snapshot = stamped config c m.before.snapshot.rev (attempts past)

theorem Run.posted {past rest : List Moment} {m : Moment} {post : Post} (run : Run config now ms s)
    (split : ms = past ++ m :: rest) (mem : .post post ∈ m.effects) :
    ∃ command, Posted config past m command post := by
  obtain ⟨run, stepped⟩ := run.moment split
  obtain ⟨command, link, input, once, linked, seen, active, sender, body⟩ :=
    (step?_change stepped).posts mem
  have told : m.before.core.config = config := run.counted.config
  rw [input] at stepped
  have unchanged : m.after = m.before := by
    rw [← send_session m.before command]
    exact (congrArg Prod.fst (Option.some.inj stepped)).symm
  have there : m.before.link = some ⟨link.connectionId, attempts past⟩ := by
    rw [← run.link_epoch linked]
    exact linked
  refine ⟨command, input, once, unchanged, ⟨_, there⟩, active, ?_, body, ?_⟩
  · rw [sender, told]
  · exact run.observed_of_linked linked seen

/-- **What an id is by which a session is ready**: the one of the handshake of the current attempt,
whose announcement was answered by the first snapshot of the current epoch. -/
structure ReadyAs (config : Config) (ms : List Moment) (s : Session) (id : String) : Prop where
  current : s.snapshot.epoch = attempts ms
  handshake : handshake? ms s.snapshot.epoch = some id
  first : ∃ n c, firstPublication? ms s.snapshot.epoch = some n ∧
    announcement? ms s.snapshot.epoch = some c ∧ n = stamped config c n.rev s.snapshot.epoch

theorem Run.readyAs {id : String} (run : Run config now ms s) (ready : s.connectionId? = some id) :
    ReadyAs config ms s id := by
  obtain ⟨link, there, rfl⟩ := Option.map_eq_some_iff.mp ready
  obtain ⟨linked, seen⟩ := readyLink?_eq_some_iff.mp there
  have current : s.snapshot.epoch = s.core.epoch := seen.trans (run.placed.link_epoch linked)
  obtain ⟨n, first⟩ := run.counted.exists_firstPublication? run.placed current
  obtain ⟨c, answer, reduced⟩ := run.published.first _ n first
  rw [← current] at first answer reduced
  refine ⟨current.trans run.counted.epoch, ?_, n, c, first, answer, reduced⟩
  rw [current]
  exact run.traced.linked link linked

/-- **Commands follow the current connection.** Wherever a run has led, a command is posted or
refused as it has to be, and nothing else happens; the link is always the one of the current
attempt. Whatever was posted during the run was posted by a snapshot that was observed on the
attempt then under way, and an id by which the session is ready is the one of the attempt that the
current snapshot is of. -/
theorem commands_follow_connection (run : Run config now ms s) :
    s.config = config ∧ s.epoch = attempts ms ∧ (∀ c, Routed s c (s.send c)) ∧
    (∀ link, s.link = some link → link.epoch = attempts ms) ∧
    (∀ past m rest, ms = past ++ m :: rest → ∀ post, .post post ∈ m.effects →
      ∃ command, Posted config past m command post) ∧
    ∀ id, s.connectionId? = some id → ReadyAs config ms s id := by
  refine ⟨run.counted.config, run.counted.epoch, fun c => send_routed s c,
    fun link linked => run.link_epoch linked, ?_, ?_⟩
  · intro past m rest split post mem
    exact run.posted split mem
  · intro id ready
    exact run.readyAs ready

/-- The device to which an effect posts a command. -/
def Effect.receiver? : Effect → Option String
  | .post p => some p.receiver
  | _ => none

/-- Two attempts, with a command on each of them; another one comes between the announcement and the
first snapshot of the second. -/
def commanding : List Input :=
  joining "one" { activeDeviceId := "phone" } ++ [.command .pause] ++ losing ++
  (joining "two" { activeDeviceId := "speaker" }).dropLast ++
  [.command .resume, .proceed, .command .skipNext]

theorem commanding_connection : ∃ ms s, Run sampleConfig 0 ms s ∧
    ms.flatMap (·.effects.filterMap Effect.receiver?) = ["phone", "speaker"] ∧
    s.connectionId? = some "two" ∧ ReadyAs sampleConfig ms s "two" := by
  have told : (replay? sampleConfig 0 commanding).map (fun run =>
      (run.1.flatMap (·.effects.filterMap Effect.receiver?), run.2.connectionId?)) =
      some (["phone", "speaker"], some "two") := by decide +kernel
  obtain ⟨⟨ms, s⟩, replayed, told⟩ := Option.map_eq_some_iff.mp told
  obtain ⟨receivers, ready⟩ := Prod.mk.inj told
  have run := Run.of_replay? replayed
  obtain ⟨-, -, -, -, -, named⟩ := commands_follow_connection run
  exact ⟨ms, s, run, receivers, ready, named "two" ready⟩

end RemotePlayback.Session
