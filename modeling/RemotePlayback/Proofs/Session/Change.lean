import RemotePlayback.Proofs.Session.Steps

/-! Every step of a session is a change of its core.

One lemma for each function of the session says which change it makes, and `step?_change` puts them
together. What holds of a session at all times is then a case analysis over `Change`. -/

namespace RemotePlayback.Session

open Playback Dealer

/-- What a result does to the core of the session it comes from. -/
abbrev Changes (s : Session) (i : Input) (r : Result) : Prop := Change s.core i r.1.core r.2

variable {s : Session} {i : Input} {r : Result}

theorem changes_quiet (core : r.1.core = s.core) (text : i.text? = none ∨ s.stage.phase = .live)
    (answer : i.announcement? = none) (silent : Silent r.2) : Changes s i r := by
  rw [Changes, core]
  exact .quiet text answer silent

theorem changes_fall (core : r.1.core = { s.core with phase := .spent })
    (phase : s.stage.phase.isOpen) (silent : Silent r.2) : Changes s i r := by
  rw [Changes, core]
  exact .fall phase silent

/-! ## Between the stages -/

/-- From one stage to another of the same phase. -/
theorem goTo_changes {stage : Stage} (same : stage.phase = s.stage.phase)
    (text : i.text? = none ∨ s.stage.phase = .live) (answer : i.announcement? = none) :
    Changes s i (s.goTo stage) :=
  changes_quiet (by simp only [goTo, core, same]) text answer silent_nil

theorem fail_changes (phase : s.stage.phase.isOpen) (cause : Failure) :
    Changes s i (s.fail cause) :=
  changes_fall rfl phase silent_nil

theorem lost_changes (phase : s.stage.phase.isOpen) : Changes s i s.lost :=
  changes_fall rfl phase silent_nil

theorem finish_phase (s : Session) : s.finish.1.stage.phase = .down := by
  simp only [finish, goTo]
  split <;> rfl

theorem finish_changes (phase : s.stage.phase = .seeking ∨ s.stage.phase = .spent) :
    Changes s i s.finish := by
  have core : s.finish.1.core = { s.core with phase := .down, link := none } := by
    simp only [finish, goTo, Session.core]
    split <;> rfl
  rw [Changes, core]
  exact .finish phase

/-! ## Seeking a connection -/

theorem attempt_core (s : Session) :
    s.attempt.1.core = { s.core with phase := .seeking, epoch := s.epoch + 1 } := by
  simp only [attempt]
  split <;> rfl

theorem attempt_silent (s : Session) : Silent s.attempt.2 := by
  simp only [attempt]
  split <;> exact .cons trivial silent_nil

theorem attempt_changes (phase : s.stage.phase = .down) : Changes s .wake s.attempt := by
  rw [Changes, attempt_core]
  exact .attempt phase s.attempt_silent

theorem resolved_changes (phase : s.stage.phase = .seeking) (answer : Except Failure Endpoints) :
    Changes s (.resolved answer) (s.resolved answer) := by
  cases answer with
  | error cause => exact finish_changes (.inl phase)
  | ok endpoints =>
    have core : (s.resolved (.ok endpoints)).1.core = s.core := by
      simp only [resolved, authorize, Session.core, phase]
      rfl
    exact changes_quiet core (.inl rfl) rfl (.cons trivial (.cons trivial silent_nil))

theorem authorized_changes {base : String} (phase : s.stage.phase = .seeking)
    (answer : Except Failure String) :
    Changes s (.authorized answer) (s.authorized base answer) := by
  cases answer with
  | error cause => exact finish_changes (.inl phase)
  | ok token =>
    have core : (s.authorized base (.ok token)).1.core = s.core := by
      simp only [authorized, Session.core, phase]
      rfl
    exact changes_quiet core (.inl rfl) rfl (.cons trivial silent_nil)

theorem connected_changes (phase : s.stage.phase = .seeking) (answer : Except Failure Unit) :
    Changes s (.connected answer) (s.connected answer) := by
  cases answer with
  | error cause => exact finish_changes (.inl phase)
  | ok _ => exact .connect phase

/-! ## The handshake -/

theorem greet_changes (phase : s.stage.phase = .greeting) (text : String) :
    Changes s (.received (.text text)) (s.greet text) := by
  have isOpen : s.stage.phase.isOpen := by rw [phase]; trivial
  unfold greet
  split
  · exact fail_changes isOpen _
  · rename_i frame read
    split
    · rename_i id handshake
      exact .greet phase read handshake
    · exact fail_changes isOpen _

theorem announced_changes {id : String} (phase : s.stage.phase = .announcing id)
    (answer : Except Failure Cluster.State) :
    Changes s (.announced answer) (s.announced id answer) := by
  cases answer with
  | error cause => exact fail_changes (by rw [phase]; trivial) cause
  | ok cluster => exact .announced phase

/-! ## Frames -/

/-- A reply is handed over, or the attempt is over. -/
theorem reply_core (phase : s.stage.phase = .live) (key : String) :
    (s.reply key).1.core = s.core ∨ (s.reply key).1.core = { s.core with phase := .spent } := by
  unfold reply
  split
  · exact .inr rfl
  · left
    simp only [goTo, core, phase]
    split <;> rfl

theorem reply_effects (s : Session) (key : String) : (s.reply key).2 = [] := by
  unfold reply
  split <;> rfl

theorem reply_changes (phase : s.stage.phase = .live) (answer : i.announcement? = none)
    (key : String) : Changes s i (s.reply key) := by
  have silent : Silent (s.reply key).2 := by
    rw [reply_effects]
    exact silent_nil
  rcases reply_core phase key with same | spent
  · exact changes_quiet same (.inr phase) answer silent
  · exact changes_fall spent (by rw [phase]; trivial) silent

theorem instruct_changes {event : Event} {key : String} (phase : s.stage.phase = .live)
    (text : i.text? = none ∨ s.stage.phase = .live) (answer : i.announcement? = none) :
    Changes s i (s.instruct event key) := by
  have core : (s.instruct event key).1.core = s.core := by
    simp only [instruct, Session.core, phase]
    rfl
  exact changes_quiet core text answer (.cons trivial silent_nil)

theorem notify_changes {text uri : String} {headers : Headers} {payload : Bytes}
    (phase : s.stage.phase = .live)
    (read : Frame.read text = .ok (.notification uri headers payload)) :
    Changes s (.received (.text text)) (s.notify uri payload) := by
  have quiet {effects : List Effect} (silent : Silent effects) :
      Changes s (.received (.text text)) (s, effects) :=
    changes_quiet rfl (.inr phase) rfl silent
  unfold notify
  split
  · rename_i topic
    split
    · rename_i cluster decoded
      have pushed : pushed? s.config text = some cluster := by
        simp only [pushed?, read, topic, decoded]
      exact .push phase pushed
    · exact quiet silent_nil
  · split
    · refine quiet fun e he => ?_
      obtain ⟨change, -, rfl⟩ := List.mem_map.mp he
      trivial
    · exact quiet silent_nil
  · exact quiet (.cons trivial silent_nil)
  · exact quiet silent_nil

theorem handle_changes (stage : s.stage = .reading) (text : String) :
    Changes s (.received (.text text)) (s.handle text) := by
  have phase : s.stage.phase = .live := by rw [stage]; rfl
  have quiet : Changes s (.received (.text text)) (s, []) :=
    changes_quiet rfl (.inr phase) rfl silent_nil
  unfold handle
  split
  · exact quiet
  · exact fail_changes (by rw [phase]; trivial) _
  · rename_i read
    exact notify_changes phase read
  · split
    · exact instruct_changes phase (.inr phase) rfl
    · exact reply_changes phase rfl _
  · exact quiet

theorem received_changes {received : Received} (reads : Reads s received r) :
    Changes s (.received received) r := by
  have isOpen : s.stage.phase.isOpen := by
    rcases reads.stage with stage | stage <;>
      · rw [stage]
        trivial
  cases reads with
  | greet stage => exact greet_changes (by rw [stage]; rfl) _
  | handle stage => exact handle_changes stage _
  | failed | ended => exact fail_changes isOpen _

/-! ## The session's own turn -/

theorem delivered_changes {event : Event} {key : String} {accepted : Bool}
    (phase : s.stage.phase = .live) :
    Changes s (.delivered accepted) (s.delivered event key) := by
  unfold delivered
  split
  · split
    · exact instruct_changes phase (.inl rfl) rfl
    · exact reply_changes phase rfl key
  · exact reply_changes phase rfl key

theorem letGo_changes (phase : s.stage.phase = .spent) (c : Connection) :
    Changes s .proceed (s.letGo c) := by
  have core : (s.letGo c).1.core = s.core := by
    simp only [letGo, goTo, Session.core, phase]
    rfl
  exact changes_quiet core (.inl rfl) rfl silent_nil

theorem close_changes (phase : s.stage.phase = .spent) (outcome : Outcome) :
    Changes s .proceed (s.close outcome) := by
  unfold close
  split
  · exact finish_changes (.inr phase)
  · split
    · exact letGo_changes phase _
    · split
      · exact letGo_changes phase _
      · split
        · exact changes_quiet (by simp only [goTo, core, phase]; rfl) (.inl rfl) rfl silent_nil
        · exact letGo_changes phase _

theorem proceed_changes (proceeds : Proceeds s r) : Changes s .proceed r := by
  cases proceeds with
  | abandon phase => exact finish_changes (.inl phase)
  | leave stage => exact changes_fall rfl (by rw [stage]; trivial) silent_nil
  | lose stage =>
    rcases stage with ⟨id, stage⟩ | stage <;> exact lost_changes (by rw [stage]; trivial)
  | adopt stage =>
    have phase : s.core.phase = .adopting _ := congrArg Stage.phase stage
    exact .adopt phase
  | replied stage | stop stage => exact goTo_changes (by rw [stage]; rfl) (.inl rfl) rfl
  | stuck stage => exact fail_changes (by rw [stage]; trivial) _
  | close stage => exact close_changes (by rw [stage]; rfl) _
  | letGo stage => exact letGo_changes (by rw [stage]; rfl) _
  | finish stage => exact finish_changes (.inr (by rw [stage]; rfl))

/-! ## Reports and commands -/

theorem readyLink?_eq_some_iff {link : Link} :
    s.readyLink? = some link ↔ s.link = some link ∧ s.snapshot.epoch = link.epoch := by
  simp only [readyLink?, Option.filter_eq_some_iff, beq_iff_eq]

theorem report_changes (s : Session) (player : Cluster.PlayerState) :
    Changes s (.report player) (s.report player).2 := by
  unfold report
  split
  · exact changes_quiet rfl (.inl rfl) rfl silent_nil
  · rename_i link ready
    obtain ⟨linked, seen⟩ := readyLink?_eq_some_iff.mp ready
    exact .report linked seen

theorem reported_changes {number : Nat} {answer : Except Failure Cluster.State}
    (answers : Answers s number answer r) : Changes s (.reported number answer) r := by
  cases answers with
  | drop pending => exact .drop pending
  | publish pending linked seen fresh => exact .answer pending linked seen fresh

/-- **How a command is to be routed**, with the answer to the caller, the session afterwards and the
effects: without a link of the snapshot's epoch it is refused, then without an active device; else
it is posted once, from this device to the active one. -/
inductive Routed (s : Session) (c : Command) : Except Failure Post × Result → Prop where
  | unlinked (link : s.link = none) : Routed s c (.error .notReady, s, [])
  | stale {link} (linked : s.link = some link) (stale : s.snapshot.epoch ≠ link.epoch) :
      Routed s c (.error .notReady, s, [])
  | inactive {link} (linked : s.link = some link) (seen : s.snapshot.epoch = link.epoch)
      (inactive : s.snapshot.activeDeviceId = none) : Routed s c (.error .noActiveDevice, s, [])
  | posted {link post} (linked : s.link = some link) (seen : s.snapshot.epoch = link.epoch)
      (active : s.snapshot.activeDeviceId = some post.receiver)
      (sender : post.sender = s.config.deviceId) (body : post.body = c.envelope) :
      Routed s c (.ok post, s, [.post post])

theorem send_routed (s : Session) (c : Command) : Routed s c (s.send c) := by
  unfold send Session.command
  cases ready : s.readyLink? with
  | none =>
    cases linked : s.link with
    | none => exact .unlinked linked
    | some link =>
      refine .stale linked fun seen => ?_
      cases ready.symm.trans (readyLink?_eq_some_iff.mpr ⟨linked, seen⟩)
  | some link =>
    obtain ⟨linked, seen⟩ := readyLink?_eq_some_iff.mp ready
    cases active : s.snapshot.activeDeviceId with
    | none => exact .inactive linked seen active
    | some receiver => exact .posted linked seen active rfl rfl

theorem send_changes (s : Session) (command : Command) :
    Changes s (.command command) (s.send command).2 := by
  have refused : Changes s (.command command) (s, []) :=
    changes_quiet rfl (.inl rfl) rfl silent_nil
  have routed := send_routed s command
  generalize s.send command = sent at routed
  cases routed with
  | unlinked | stale | inactive => exact refused
  | posted linked seen active sender body => exact .post linked seen active sender body

/-! ## Steps -/

theorem write_changes (writes : Writes s r) : Changes s .write r := by
  cases writes with
  | take => exact changes_quiet rfl (.inl rfl) rfl (.cons trivial silent_nil)
  | exhaust => exact changes_quiet rfl (.inl rfl) rfl silent_nil

theorem step_changes (step : Steps s i r) : Changes s i r := by
  cases step with
  | resolved stage => exact resolved_changes (by rw [stage]; rfl) _
  | authorized stage => exact authorized_changes (by rw [stage]; rfl) _
  | connected stage => exact connected_changes (by rw [stage]; rfl) _
  | received reads => exact received_changes reads
  | announced stage => exact announced_changes (by rw [stage]; rfl) _
  | delivered stage => exact delivered_changes (by rw [stage]; rfl)
  | proceed proceeds => exact proceed_changes proceeds
  | wake stage => exact attempt_changes (by rw [stage]; rfl)
  | write writes => exact write_changes writes
  | wrote | ping | endKeepalive | tick | wallClock | cancel =>
    exact changes_quiet rfl (.inl rfl) rfl silent_nil
  | report => exact report_changes s _
  | reported answers => exact reported_changes answers
  | command => exact send_changes s _

/-- **Every step is a change of the core.** -/
theorem step?_change {s' : Session} {effects : List Effect} (h : s.step? i = some (s', effects)) :
    Change s.core i s'.core effects :=
  step_changes (step?_steps h)

end RemotePlayback.Session
