import RemotePlayback.Proofs.Session.Core

/-! What a step of a session can be.

Which inputs can happen now depends on the stage, on what was cancelled and on the connection. Here
this is told once, by a relation for every function that makes such a choice: each constructor is
one choice, with the conditions under which it is made and what comes of it. What is proved of all
steps is then a case analysis over `Steps`, and the choices themselves are opened here only. -/

namespace RemotePlayback.Session

open Playback Dealer

variable {s : Session} {i : Input} {r : Result}

/-! ## Reading -/

/-- **What comes of reading**: the first frame is to be a handshake, those behind it are dealt with,
and the attempt fails when there is nothing more to read. -/
inductive Reads (s : Session) : Received → Result → Prop where
  | greet {text} (stage : s.stage = .greeting) : Reads s (.text text) (s.greet text)
  | handle {text} (stage : s.stage = .reading) : Reads s (.text text) (s.handle text)
  | failed {cause} (stage : s.stage = .greeting ∨ s.stage = .reading) :
      Reads s (.failed cause) (s.fail cause)
  | ended {cause} (stage : s.stage = .greeting ∨ s.stage = .reading) :
      Reads s .ended (s.fail cause)

theorem received?_reads {received : Received} (h : s.received? received = some r) :
    Reads s received r := by
  unfold received? at h
  split at h <;> cases h
  · exact .greet ‹_›
  · exact .ended (.inl ‹_›)
  · exact .handle ‹_›
  · exact .ended (.inr ‹_›)
  · exact .failed (.inl ‹_›)
  · exact .failed (.inr ‹_›)

/-- Frames are read for the handshake and once the device is announced. -/
theorem Reads.stage {received : Received} (reads : Reads s received r) :
    s.stage = .greeting ∨ s.stage = .reading := by
  cases reads with
  | greet stage => exact .inl stage
  | handle stage => exact .inr stage
  | failed stage | ended stage => exact stage

/-! ## The session's own turn -/

/-- **What comes of the session's own turn**, by its stage. -/
inductive Proceeds (s : Session) : Result → Prop where
  /-- Cancelled before there is a connection. -/
  | abandon (phase : s.stage.phase = .seeking) (cancelled : s.cancelled = true) :
      Proceeds s s.finish
  /-- Cancelled before the handshake. -/
  | leave {c} (stage : s.stage = .greeting) (there : s.connection = some c)
      (severed : s.cancelled = true ∨ c.cancelled = true) : Proceeds s (s.goTo (.ending none))
  /-- Cancelled after it. -/
  | lose {c} (stage : (∃ id, s.stage = .announcing id) ∨ s.stage = .reading)
      (there : s.connection = some c) (severed : s.cancelled = true ∨ c.cancelled = true) :
      Proceeds s s.lost
  | adopt {cluster} (stage : s.stage = .adopting cluster) :
      Proceeds s ({ (s.publish cluster s.epoch).1 with stage := .reading },
        (s.publish cluster s.epoch).2)
  /-- The reply found room. -/
  | replied {c} (stage : s.stage = .replying) (there : s.connection = some c) :
      Proceeds s (s.goTo .reading)
  /-- A reply waits for room, and the writer is gone. -/
  | stuck {c} (stage : s.stage = .replying) (there : s.connection = some c)
      (gone : c.writerGone = true) : Proceeds s (s.fail (.transport "writer closed"))
  | close {outcome} (stage : s.stage = .ending outcome) : Proceeds s (s.close outcome)
  | letGo {c} (stage : s.stage = .closing) (there : s.connection = some c) :
      Proceeds s (s.letGo c)
  | finish {c} (stage : s.stage = .draining) (there : s.connection = some c)
      (gone : c.writerGone = true) : Proceeds s s.finish
  /-- Cancelled between two attempts. -/
  | stop {wake} (stage : s.stage = .sleeping wake) (cancelled : s.cancelled = true) :
      Proceeds s (s.goTo .stopped)

theorem proceed?_proceeds (h : s.proceed? = some r) : Proceeds s r := by
  cases stage : s.stage with
  | resolving | authorizing | connecting =>
    simp only [proceed?, stage] at h
    split at h <;> cases h
    rename_i cancelled
    exact .abandon (by rw [stage]; rfl) cancelled
  | greeting =>
    cases there : s.connection <;> simp only [proceed?, stage, there] at h
    · cases h
    · split at h <;> cases h
      rename_i severed
      exact .leave stage there severed
  | announcing =>
    cases there : s.connection <;> simp only [proceed?, stage, there] at h
    · cases h
    · split at h <;> cases h
      rename_i severed
      exact .lose (.inl ⟨_, stage⟩) there severed
  | adopting cluster =>
    simp only [proceed?, stage] at h
    cases h
    exact .adopt stage
  | reading =>
    cases there : s.connection <;> simp only [proceed?, stage, there] at h
    · cases h
    · split at h <;> cases h
      rename_i severed
      exact .lose (.inr stage) there severed
  | replying =>
    cases there : s.connection <;> simp only [proceed?, stage, there] at h
    · cases h
    · split at h
      · cases h
        exact .replied stage there
      · split at h <;> cases h
        rename_i gone
        exact .stuck stage there gone
  | ending outcome =>
    simp only [proceed?, stage] at h
    cases h
    exact .close stage
  | closing =>
    cases there : s.connection <;> simp only [proceed?, stage, there] at h
    · cases h
    · split at h <;> cases h
      exact .letGo stage there
  | draining =>
    cases there : s.connection <;> simp only [proceed?, stage, there] at h
    · cases h
    · split at h <;> cases h
      rename_i gone
      exact .finish stage there gone
  | sleeping =>
    simp only [proceed?, stage] at h
    split at h <;> cases h
    rename_i cancelled
    exact .stop stage cancelled
  | delivering | stopped =>
    simp only [proceed?, stage] at h
    cases h

/-! ## The writer and answers to reports -/

/-- **What comes of the writer's turn**: it takes a frame, or ends when there is none left. -/
inductive Writes (s : Session) : Result → Prop where
  | take {c c' frame} (there : s.connection = some c) (took : c.take? = some (frame, c')) :
      Writes s ({ s with connection := some c' }, [.write c'.number frame])
  | exhaust {c c'} (stage : s.stage = .draining) (there : s.connection = some c)
      (ended : c.exhausted? = some c') : Writes s ({ s with connection := some c' }, [])

theorem write?_writes (h : s.write? = some r) : Writes s r := by
  obtain ⟨c, there, turn⟩ := Option.bind_eq_some_iff.mp h
  split at turn
  · rename_i took
    cases turn
    exact .take there took
  · split at turn
    · rename_i stage
      obtain ⟨c', ended, rfl⟩ := Option.map_eq_some_iff.mp turn
      exact .exhaust stage there ended
    · cases turn

/-- A session that has forgotten a call. -/
def forget (s : Session) (number : Nat) : Session :=
  { s with calls := s.calls.filter (·.number != number) }

/-- **What comes of the answer to a report**: it is published by the link on which the report went
out, or passed over. -/
inductive Answers (s : Session) : Nat → Except Failure Cluster.State → Result → Prop where
  | drop {call answer} (pending : call ∈ s.calls) :
      Answers s call.number answer (s.forget call.number, [])
  | publish {call cluster} (pending : call ∈ s.calls) (linked : s.link = some call.link)
      (seen : s.snapshot.epoch = call.link.epoch)
      (fresh : s.snapshot.timestamp ≤
        (Snapshot.ofCluster cluster s.config.deviceId).timestamp) :
      Answers s call.number (.ok cluster)
        ((s.forget call.number).publish cluster call.link.epoch)

theorem reported?_answers {number : Nat} {answer : Except Failure Cluster.State}
    (h : s.reported? number answer = some r) : Answers s number answer r := by
  obtain ⟨call, found, rfl⟩ := Option.map_eq_some_iff.mp h
  have pending : call ∈ s.calls := List.mem_of_find?_eq_some found
  obtain rfl : call.number = number := by simpa using List.find?_some found
  cases answer with
  | error cause => exact .drop pending
  | ok cluster =>
    -- the test is made on the session that has forgotten the call already
    dsimp only
    unfold adopt
    split
    · rename_i current
      obtain ⟨linked, seen, fresh⟩ := current
      exact .publish pending linked seen fresh
    · exact .drop pending

/-! ## Steps -/

/-- **A step**: the input, the condition under which it can happen now, and what comes of it. -/
inductive Steps (s : Session) : Input → Result → Prop where
  | resolved {answer} (stage : s.stage = .resolving) :
      Steps s (.resolved answer) (s.resolved answer)
  | authorized {base answer} (stage : s.stage = .authorizing base) :
      Steps s (.authorized answer) (s.authorized base answer)
  | connected {answer} (stage : s.stage = .connecting) :
      Steps s (.connected answer) (s.connected answer)
  | received {received} {r : Result} (reads : Reads s received r) : Steps s (.received received) r
  | announced {id answer} (stage : s.stage = .announcing id) :
      Steps s (.announced answer) (s.announced id answer)
  | delivered {accepted event key} (stage : s.stage = .delivering event key) :
      Steps s (.delivered accepted) (s.delivered event key)
  | proceed {r : Result} (proceeds : Proceeds s r) : Steps s .proceed r
  | wake {wake} (stage : s.stage = .sleeping wake) (due : wake ≤ s.clock) : Steps s .wake s.attempt
  | write {r : Result} (writes : Writes s r) : Steps s .write r
  | wrote {ok c c'} (there : s.connection = some c) (wrote : c.wrote? ok = some c') :
      Steps s (.wrote ok) ({ s with connection := some c' }, [])
  | ping {c c'} (there : s.connection = some c)
      (turn : c.keepalive? s.clock s.config.pingInterval = some c') :
      Steps s .ping ({ s with connection := some c' }, [])
  | endKeepalive {c c'} (there : s.connection = some c)
      (ended : c.endKeepalive? s.cancelled = some c') :
      Steps s .endKeepalive ({ s with connection := some c' }, [])
  | tick : Steps s .tick ({ s with clock := s.clock + 1 }, [])
  | wallClock {now} : Steps s (.wallClock now) ({ s with now }, [])
  | cancel : Steps s .cancel ({ s with cancelled := true }, [])
  | report {player} : Steps s (.report player) (s.report player).2
  | reported {number answer} {r : Result} (answers : Answers s number answer r) :
      Steps s (.reported number answer) r
  | command {c} : Steps s (.command c) (s.send c).2

/-- **Every step is one of these.** -/
theorem step?_steps (h : s.step? i = some r) : Steps s i r := by
  cases i with
  | resolved answer =>
    obtain ⟨stage, h⟩ := Option.ite_none_right_eq_some.mp h
    cases h
    exact .resolved stage
  | authorized answer =>
    simp only [step?] at h
    split at h <;> cases h
    rename_i stage
    exact .authorized stage
  | connected answer =>
    obtain ⟨stage, h⟩ := Option.ite_none_right_eq_some.mp h
    cases h
    exact .connected stage
  | received received => exact .received (received?_reads h)
  | announced answer =>
    simp only [step?] at h
    split at h <;> cases h
    rename_i stage
    exact .announced stage
  | delivered accepted =>
    simp only [step?] at h
    split at h <;> cases h
    rename_i stage
    exact .delivered stage
  | proceed => exact .proceed (proceed?_proceeds h)
  | wake =>
    obtain ⟨wake, stage, due, rfl⟩ := wake?_eq_some_iff.mp h
    exact .wake stage due
  | write => exact .write (write?_writes h)
  | wrote ok =>
    obtain ⟨c, there, h⟩ := Option.bind_eq_some_iff.mp h
    obtain ⟨c', wrote, rfl⟩ := Option.map_eq_some_iff.mp h
    exact .wrote there wrote
  | ping =>
    obtain ⟨c, there, h⟩ := Option.bind_eq_some_iff.mp h
    obtain ⟨c', turn, rfl⟩ := Option.map_eq_some_iff.mp h
    exact .ping there turn
  | endKeepalive =>
    obtain ⟨c, there, h⟩ := Option.bind_eq_some_iff.mp h
    obtain ⟨c', ended, rfl⟩ := Option.map_eq_some_iff.mp h
    exact .endKeepalive there ended
  | tick =>
    cases h
    exact .tick
  | wallClock now =>
    cases h
    exact .wallClock
  | cancel =>
    cases h
    exact .cancel
  | report player =>
    cases h
    exact .report
  | reported number answer => exact .reported (reported?_answers h)
  | command c =>
    cases h
    exact .command

end RemotePlayback.Session
