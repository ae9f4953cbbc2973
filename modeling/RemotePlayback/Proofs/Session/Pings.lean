import RemotePlayback.Proofs.Session.Closing
import RemotePlayback.Proofs.Session.Connections
import RemotePlayback.Proofs.Session.Schedule
import RemotePlayback.Settings.Session

/-! Pings keep time.

Where a session is at rest, its keep-alive waits for the next ping and all pings before that are
written. So their number is told by the time since the handshake. On a clock that goes on only where
the session is at rest, an attempt that is left is over before the next millisecond. -/

namespace RemotePlayback.Session

open Playback Dealer

variable {config : Config} {now : Int64} {ms past rest : List Moment} {m m' : Moment}
  {s s' : Session} {i : Input} {effects : List Effect} {c : Connection} {n epoch : Nat}

/-! ## Rest -/

/-- **A session at rest**: it has nothing to do by itself, and neither has its keep-alive nor its
writer, and no write is under way. -/
structure AtRest (s : Session) : Prop where
  proceed : s.step? .proceed = none
  wake : s.step? .wake = none
  ping : s.step? .ping = none
  endKeepalive : s.step? .endKeepalive = none
  write : s.step? .write = none
  written : ∀ c, s.connection = some c → c.writing = none

theorem atRest_iff : s.AtRest ↔ (s.step? .proceed).isNone ∧ (s.step? .wake).isNone ∧
    (s.step? .ping).isNone ∧ (s.step? .endKeepalive).isNone ∧ (s.step? .write).isNone ∧
    s.connection.bind (·.writing) = none := by
  simp only [Option.isNone_iff_eq_none, Option.bind_eq_none_iff]
  constructor
  · intro h
    exact ⟨h.proceed, h.wake, h.ping, h.endKeepalive, h.write, h.written⟩
  · rintro ⟨proceed, wake, ping, endKeepalive, write, written⟩
    exact ⟨proceed, wake, ping, endKeepalive, write, written⟩

instance (s : Session) : Decidable s.AtRest := decidable_of_iff' _ atRest_iff

/-- **A run on the virtual clock**: time passes only where the session is at rest. -/
def Paced (ms : List Moment) : Prop := ∀ m ∈ ms, m.input = .tick → m.before.AtRest

namespace AtRest

/-- At rest everything is written. -/
theorem queue_eq_nil (h : s.AtRest) (there : s.connection = some c)
    (writer : c.writerGone = false) : c.queue = [] := by
  apply Decidable.byContradiction
  intro more
  obtain ⟨f, c', took, -⟩ := Connection.exists_taken writer (h.written c there) more
  have idle := h.write
  simp only [step?, write?, there, Option.bind_some, took] at idle
  cases idle

/-- At rest the next ping is not due yet. -/
theorem clock_lt {next : Nat} (h : s.AtRest) (there : s.connection = some c)
    (waiting : c.waiting = []) (due : c.keepalive.due? = some next) : s.clock < next := by
  have idle : c.keepalive? s.clock s.config.pingInterval = none := by
    have ping := h.ping
    simpa only [step?, there, Option.bind_some, Option.map_eq_none_iff] using ping
  unfold Connection.keepalive? at idle
  cases keepalive : c.keepalive with
  | absent | gone =>
    rw [keepalive] at due
    cases due
  | sending =>
    -- nothing waits behind the queue any more
    simp [keepalive, Connection.isWaiting, waiting] at idle
  | idle next' =>
    rw [keepalive] at due idle
    cases due
    dsimp only at idle
    split at idle
    · assumption
    · split at idle
      · cases idle
      · split at idle <;> cases idle

/-- An attempt that was left, but is not over, has something to do. -/
theorem rank_ne (h : s.AtRest) (run : Run config now ms s) : s.rank ≠ 5 := by
  intro spent
  have parting : s.stage.IsParting := by
    cases stage : s.stage with
    | closing | draining => trivial
    | ending outcome =>
      have stuck := h.proceed
      simp only [step?, proceed?, stage] at stuck
      cases stuck
    | _ => simp [rank, stage, Stage.phase, Phase.rank] at spent
  obtain ⟨i, s', effects, work, step, -⟩ :=
    canWork_of_parting run.wired run.packed run.released parting
  cases i with
  | proceed => cases step.symm.trans h.proceed
  | ping => cases step.symm.trans h.ping
  | endKeepalive => cases step.symm.trans h.endKeepalive
  | write => cases step.symm.trans h.write
  | wrote ok =>
    obtain ⟨c, there, goes⟩ := Option.bind_eq_some_iff.mp step
    rw [Connection.wrote?, h.written c there] at goes
    cases goes
  | _ => exact work.elim

end AtRest

/-! ## The number of pings -/

/-- The number of deadlines that have passed, of which the first is the start. -/
theorem count_of_due {interval start clock k : Nat} (begun : start ≤ clock)
    (due : ∀ j < k, start + j * interval ≤ clock) (next : clock < start + k * interval) :
    k = (clock - start) / interval + 1 := by
  obtain _ | j := k
  · omega
  · have last := due j (Nat.lt_succ_self j)
    have quotient : (clock - start) / interval = j :=
      Nat.div_eq_of_lt_le (by omega) (by omega)
    rw [quotient]

/-- The clock of a run does not go back. -/
theorem Run.clock_le (run : Run config now ms s) (split : ms = past ++ m :: rest) :
    m.before.clock ≤ s.clock := by
  obtain ⟨-, step⟩ := run.moment split
  exact run.since (P := fun _ s => m.before.clock ≤ s.clock) split (step?_clock_le step)
    fun _ earlier step => Nat.le_trans earlier (step?_clock_le step)

/-- The connection of an accepted handshake was made on its attempt. -/
theorem Run.opened_of_accepts (run : Run config now ms s) (split : ms = past ++ m :: rest)
    (accepts : m.Accepts n) : (n, m.before.epoch) ∈ openings ms := by
  obtain ⟨before, -⟩ := run.moment split
  obtain ⟨c, there, rfl⟩ := accepts.number
  rw [split, openings_append]
  exact List.mem_append_left _ (before.ledger.current c there).2

/-- **At rest the number of pings is told by the time.** -/
theorem Run.pings_at_rest (run : Run config now ms s) (split : ms = past ++ m :: rest)
    (accepts : m.Accepts n) (positive : 0 < config.pingInterval) (still : s.AtRest)
    (up : Up ms s m.before.epoch) : pings (writtenTo ms n) =
      (s.clock - m.before.clock) / config.pingInterval + 1 := by
  have begun := run.clock_le split
  have low : 2 ≤ s.rank := by
    obtain ⟨before, step⟩ := run.moment split
    exact Nat.le_trans (accepts.announced step).1 (run.rank_after split up.current.symm)
  obtain ⟨c, there⟩ := run.exists_connection low up.open_
  have writer := run.writer_of_up up there
  have schedule := run.onSchedule split accepts positive up there
  have empty := still.queue_eq_nil there writer
  have waiting := (run.packed c there writer).waiting_of_empty empty
  have whole : written (during ms m.before.epoch) ++ c.unwritten = writtenTo ms n := by
    rw [(run.packed c there writer).unwritten_of_empty empty, List.append_nil,
      run.writtenTo_eq (run.opened_of_accepts split accepts)]
  rw [← whole]
  exact count_of_due begun schedule.due (still.clock_lt there waiting schedule.next)

/-! ## Before and after -/

/-- **Whatever is written to a connection is written while its attempt lasts.** -/
theorem Run.written_while {f : Outbound} (run : Run config now ms s)
    (opened : (n, epoch) ∈ openings ms) (mem : m ∈ ms) (sent : .write n f ∈ m.effects) :
    m.before.epoch = epoch ∧ m.before.stage.phase ≠ .down := by
  obtain ⟨past, rest, rfl, before, step⟩ := run.of_mem mem
  have entered : (n, m.before.epoch) ∈ openings (past ++ m :: rest) := by
    rw [openings_append]
    exact List.mem_append_left _ (before.opened_of_write step sent)
  refine ⟨congrArg Prod.snd (opening_eq run.ledger.ascending entered opened (.inl rfl)), ?_⟩
  intro down
  obtain ⟨c, c', there, -⟩ := (step?_flow step).of_write sent
  cases there.symm.trans (before.wired.mpr (.inr down))

/-- **Before the handshake no text is written**, nor is any at its moment. -/
theorem Run.silent_before (run : Run config now ms s) (split : ms = past ++ m :: rest)
    (accepts : m.Accepts n) (mem : m' ∈ past ++ [m]) (text : String) :
    .write n (.text text) ∉ m'.effects := by
  intro sent
  obtain ⟨before, step⟩ := run.moment split
  rcases List.mem_append.mp mem with earlier | here
  · obtain ⟨front, back, split', run', step'⟩ := before.of_mem earlier
    obtain ⟨id, greeted⟩ := run'.greeted_of_text step' sent
    have among : m' ∈ ms := by
      rw [split]
      exact List.mem_append_left _ earlier
    obtain ⟨same, -⟩ := run.written_while (run.opened_of_accepts split accepts) among sent
    rw [same] at greeted
    refine before.ungreeted accepts.greeting id ?_
    rw [split']
    exact greeted.append _
  · cases List.mem_singleton.mp here
    obtain ⟨id, announced⟩ := accepts.announces step
    rw [(Prod.mk.inj announced).2] at sent
    cases List.mem_singleton.mp sent

/-! ## On the virtual clock -/

/-- Only a tick moves the clock. -/
theorem step?_clock_eq (step : s.step? i = some (s', effects)) (other : i ≠ .tick) :
    s'.clock = s.clock := by
  have gauge := congrArg Gauge.clock (step?_gauge step)
  have same : (s.gauge.next i).clock = s.gauge.clock := by
    unfold Gauge.next
    split
    · exact absurd rfl other
    all_goals rfl
  exact gauge.trans same

/-- An attempt that was left, but is not over, is at one rank only. -/
theorem rank_eq_of_late (late : 5 ≤ s.rank) (lasts : s.stage.phase ≠ .down) : s.rank = 5 := by
  unfold rank at late ⊢
  cases phase : s.stage.phase with
  | down => exact absurd phase lasts
  | spent => rfl
  | _ => simp [phase, Phase.rank] at late

/-- While an attempt that was left is not over, the clock stands still. -/
theorem Run.clock_eq (run : Run config now ms s) (step : s.step? i = some (s', effects))
    (paced : i = .tick → s.AtRest) (late : 5 ≤ s'.rank) (lasts : s'.stage.phase ≠ .down) :
    s'.clock = s.clock := by
  by_cases tick : i = .tick
  · have still := paced tick
    subst tick
    cases step
    exact absurd (rank_eq_of_late late lasts) (still.rank_ne run)
  · exact step?_clock_eq step tick

/-- **On the virtual clock an attempt is over in the millisecond in which it is left.** -/
theorem Run.clock_le_of_left (run : Run config now ms s) (split : ms = past ++ m :: rest)
    (paced : Paced ms) (left : 5 ≤ m.after.rank) (on : s.epoch = m.before.epoch)
    (lasts : s.stage.phase ≠ .down) : s.clock ≤ m.before.clock := by
  obtain ⟨before, leaves⟩ := run.moment split
  refine run.since_on (P := fun ms s => Paced ms → s.stage.phase ≠ .down →
    s.clock ≤ m.before.clock) split on ?_ ?_ paced lasts
  · intro paced lasts
    have here := paced m (List.mem_append_right _ (List.mem_singleton.mpr rfl))
    exact Nat.le_of_eq (before.clock_eq leaves here left lasts)
  · intro ms s i s' effects run step _ same further h paced lasts'
    obtain ⟨earlier, last⟩ := List.forall_mem_append.mp paced
    have lasts : s.stage.phase ≠ .down := fun down => lasts' (down_of_down step down same)
    have late : 5 ≤ s'.rank := Nat.le_trans left (Nat.le_trans further (step?_rank_le step same))
    rw [run.clock_eq step (last _ (List.mem_singleton.mpr rfl)) late lasts']
    exact h earlier lasts

/-- So whatever happens on the attempt happens by then. -/
theorem Run.clock_le_of_lasting {l : Moment} (run : Run config now ms s) (paced : Paced ms)
    (leaving : l ∈ ms) (left : 5 ≤ l.after.rank) (mem : m ∈ ms)
    (on : m.before.epoch = l.before.epoch) (lasts : m.before.stage.phase ≠ .down) :
    m.before.clock ≤ l.before.clock := by
  obtain ⟨past, rest, split⟩ := List.append_of_mem leaving
  rw [split] at mem
  rcases List.mem_append.mp mem with earlier | later
  · obtain ⟨before, -⟩ := run.moment split
    obtain ⟨front, back, split'⟩ := List.append_of_mem earlier
    exact before.clock_le split'
  · rcases List.mem_cons.mp later with rfl | later
    · exact Nat.le_refl _
    · obtain ⟨front, back, rfl⟩ := List.append_of_mem later
      have split' : ms = (past ++ l :: front) ++ m :: back := by
        rw [split, List.append_assoc, List.cons_append]
      obtain ⟨before, -⟩ := run.moment split'
      have paced' : Paced (past ++ l :: front) := fun m' mem' =>
        paced m' (by rw [split']; exact List.mem_append_left _ mem')
      exact before.clock_le_of_left rfl paced' left on lasts

/-! ## Pings keep time -/

/-- The settings always ask for pings. -/
theorem pingInterval_pos (settings : Settings) (deviceId : String) :
    0 < (settings.sessionConfig deviceId).pingInterval := by
  have least : 1 ≤ settings.pingInterval := Nat.le_max_left _ _
  show 0 < 1000 * settings.pingInterval
  omega

/-- **Pings keep time.** From the moment at which the handshake of a connection is accepted, and as
long as the connection is up and its writes succeed, there is at rest one ping for that moment and
one for each interval since; what is read, what is replied and whether the device is announced by
now make no difference. A ping is a record that says so and nothing else. No text is written to the
connection before, and nothing once its attempt is over; and on the virtual clock nothing is written
to it after the millisecond in which the attempt is left. -/
theorem pings_keep_time (run : Run config now ms s) (split : ms = past ++ m :: rest)
    (accepts : m.Accepts n) (positive : 0 < config.pingInterval) :
    (s.AtRest → Up ms s m.before.epoch → pings (writtenTo ms n) =
      (s.clock - m.before.clock) / config.pingInterval + 1) ∧
    Json.parse? (Bytes.ofText pingText) = some (.ofMembers [("type", .string "ping")]) ∧
    (∀ m' ∈ past ++ [m], ∀ text, .write n (.text text) ∉ m'.effects) ∧
    (∀ m' ∈ ms, ∀ f, .write n f ∈ m'.effects →
      m'.before.epoch = m.before.epoch ∧ m'.before.stage.phase ≠ .down) ∧
    (Paced ms → ∀ l ∈ ms, l.before.epoch = m.before.epoch → 5 ≤ l.after.rank →
      ∀ m' ∈ ms, ∀ f, .write n f ∈ m'.effects → m'.before.clock ≤ l.before.clock) := by
  have opened := run.opened_of_accepts split accepts
  refine ⟨fun still up => run.pings_at_rest split accepts positive still up, parse?_pingText,
    fun m' mem text => run.silent_before split accepts mem text,
    fun m' mem f sent => run.written_while opened mem sent, ?_⟩
  intro paced l leaving on left m' mem f sent
  obtain ⟨on', lasts⟩ := run.written_while opened mem sent
  exact run.clock_le_of_lasting paced leaving left mem (on'.trans on.symm) lasts

/-- A session that pings every other millisecond. -/
def pingingConfig : Config := { sampleConfig with pingInterval := 2 }

/-- A frame is written. -/
def writing : List Input := [.write, .wrote true]

/-- Pings before the device is announced and after it, and a reply among them. -/
def pinging : List Input :=
  [.ping] ++ writing ++ [.tick, .tick, .ping] ++ writing ++
  [.tick, .announced (.ok {}), .proceed, .received (.text (bareRequestText "k"))] ++ writing ++
  [.tick, .ping] ++ writing ++ [.tick]

/-- Five milliseconds after the handshake there are three pings. -/
theorem pings_after_five : ∃ past m rest s, Run pingingConfig 0 (past ++ m :: rest) s ∧
    m.Accepts 1 ∧ s.AtRest ∧ Up (past ++ m :: rest) s m.before.epoch ∧
    s.clock = m.before.clock + 5 ∧ pings (writtenTo (past ++ m :: rest) 1) = 3 := by
  let front : List Input := [.authorized (.ok "token"), .connected (.ok ()), .tick]
  let inputs := front ++ .received (.text (handshakeText "one")) :: pinging
  have ended : (replay? pingingConfig 0 inputs).map (fun run =>
      (run.2.clock, run.2.epoch, run.2.rank, run.2.cancelled, decide run.2.AtRest)) =
        some (6, 1, 4, false, true) := by decide +kernel
  have told : (replay? pingingConfig 0 front).map (fun run =>
      (run.2.clock, run.2.epoch, run.2.stage, run.2.connection.map (·.number))) =
        some (1, 1, .greeting, some 1) := by decide +kernel
  obtain ⟨⟨ms, s⟩, replayed, ended⟩ := Option.map_eq_some_iff.mp ended
  obtain ⟨past, m, rest, rfl, before, input⟩ := split_of_replay? replayed
  rw [before, Option.map_some] at told
  simp only [Option.some.injEq, Prod.mk.injEq, decide_eq_true_eq] at told ended
  obtain ⟨start, on, greeting, number⟩ := told
  obtain ⟨clock, epoch, rank, running, still⟩ := ended
  have run := Run.of_replay? replayed
  have named : Names (handshakeText "one") "one" :=
    handshakeId?_eq_some_iff.mp (by decide +kernel)
  have accepts : m.Accepts 1 :=
    ⟨greeting, Option.map_eq_some_iff.mp number, _, _, input, named⟩
  have kept : ∀ m' ∈ during (past ++ m :: rest) m.before.epoch, ¬m'.Loses := by
    rintro m' mem ⟨lost, -⟩
    have among := List.mem_map_of_mem (f := (·.input)) (List.mem_filter.mp mem).1
    rw [inputs_of_replay? replayed, lost] at among
    simp [inputs, front, pinging, writing] at among
  have up : Up (past ++ m :: rest) s m.before.epoch :=
    ⟨epoch.trans on.symm, Nat.le_of_eq rank, running, kept⟩
  obtain ⟨count, -⟩ := pings_keep_time run rfl accepts (by decide)
  refine ⟨past, m, rest, s, run, accepts, still, up, by rw [clock, start], ?_⟩
  rw [count still up, clock, start]
  rfl

end RemotePlayback.Session
