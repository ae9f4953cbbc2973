import RemotePlayback.Proofs.Session.Gauge
import RemotePlayback.Proofs.Session.Parting

/-! What a session does between its attempts, and once it has ended.

An attempt comes to its end in one way, wherever it got to: the link goes, the snapshot stays, and
the session rests for a while, or for good if it was cancelled. While it rests it does nothing
at all, whatever its callers ask and whichever answers still come in. -/

namespace RemotePlayback.Session

open Playback Dealer

variable {config : Config} {now : Int64} {ms past rest : List Moment} {m : Moment}
  {s s' : Session} {i : Input} {effects : List Effect} {epoch wake : Nat}

/-! ## Inputs that a session does not wait for -/

/-- Whether an input is one that the session itself goes on with, at some stage. -/
def Input.IsAwaited : Input → Prop
  | .resolved _ | .authorized _ | .connected _ | .received _ | .announced _ | .delivered _
  | .proceed | .wake => True
  | _ => False

theorem report_stage (s : Session) (player : Cluster.PlayerState) :
    (s.report player).2.1.stage = s.stage := by
  unfold report
  split <;> rfl

theorem send_stage (s : Session) (command : Command) : (s.send command).2.1.stage = s.stage := by
  unfold send
  split <;> rfl

/-- **What the session does not wait for leaves it where it is.** -/
theorem step?_stage {r : Result} (step : s.step? i = some r) (aside : ¬i.IsAwaited) :
    r.1.stage = s.stage := by
  cases step?_steps step with
  | resolved | authorized | connected | received | announced | delivered | proceed | wake =>
    exact absurd trivial aside
  | write writes => cases writes <;> rfl
  | wrote | ping | endKeepalive | tick | wallClock | cancel => rfl
  | report => exact report_stage s _
  | reported answers => cases answers <;> rfl
  | command => exact send_stage s _

/-! ## The end of an attempt -/

/-- An attempt ends where it has no connection yet, or none any more. -/
theorem Change.of_down {k k' : Core} (change : Change k i k' effects) (up : k.phase ≠ .down)
    (down : k'.phase = .down) : k.phase = .seeking ∨ k.phase = .spent := by
  cases change with
  | quiet | push | report | drop | answer | post => exact absurd down up
  | finish phase => exact phase
  | connect | greet | announced | adopt | fall | attempt => cases down

theorem close_finish {outcome : Outcome} (down : (s.close outcome).1.stage.phase = .down) :
    s.close outcome = s.finish := by
  unfold close at down ⊢
  split
  · rfl
  · rename_i c there
    simp only [there] at down
    split at down
    · cases down
    · split at down
      · cases down
      · split at down <;> cases down

theorem Proceeds.finishes {r : Result} (proceeds : Proceeds s r) (up : s.stage.phase ≠ .down)
    (down : r.1.stage.phase = .down) : r = s.finish := by
  cases proceeds with
  | abandon | finish => rfl
  | close => exact close_finish down
  | stop stage =>
    rw [stage] at up
    exact absurd rfl up
  | leave | lose | adopt | replied | stuck | letGo => cases down

/-- **Every attempt comes to its end in the same way.** -/
theorem step?_finish {r : Result} (step : s.step? i = some r) (up : s.stage.phase ≠ .down)
    (down : r.1.stage.phase = .down) : r = s.finish := by
  have before := Change.of_down (step?_change step) up down
  cases step?_steps step with
  | @resolved answer | @authorized _ answer | @connected answer =>
    cases answer with
    | error cause => rfl
    | ok _ => cases down
  | received reads =>
    rcases reads.stage with stage | stage <;>
      · rw [core, stage] at before
        rcases before with before | before <;> cases before
  | announced stage | delivered stage =>
    rw [core, stage] at before
    rcases before with before | before <;> cases before
  | proceed proceeds => exact proceeds.finishes up down
  | wake stage =>
    rw [stage] at up
    exact absurd rfl up
  | write | wrote | ping | endKeepalive | tick | wallClock | cancel | report | reported | command =>
    have same := step?_stage step id
    rw [same] at down
    exact absurd down up

/-! ## Rest -/

/-- **A session that rests**, without link and connection. -/
structure Resting (s : Session) : Prop where
  down : s.stage.phase = .down
  link : s.link = none
  connection : s.connection = none

theorem Run.resting (run : Run config now ms s) (down : s.stage.phase = .down) : s.Resting := by
  have placed := run.placed.phase
  rw [Core.InPhase, core, down] at placed
  exact ⟨down, placed.1, run.wired.mpr (.inr down)⟩

theorem Resting.readyLink? (h : s.Resting) : s.readyLink? = none := by
  rw [Session.readyLink?, h.link, Option.filter_none]

/-- A session that rests is not ready. -/
theorem Resting.connectionId? (h : s.Resting) : s.connectionId? = none := by
  rw [Session.connectionId?, h.readyLink?, Option.map_none]

/-- It refuses commands. -/
theorem Resting.command (h : s.Resting) (command : Command) :
    s.command command = .error .notReady := by
  rw [Session.command, h.readyLink?]

theorem sleeping_or_stopped {stage : Stage} (down : stage.phase = .down) :
    (∃ wake, stage = .sleeping wake) ∨ stage = .stopped := by
  cases stage with
  | sleeping wake => exact .inl ⟨wake, rfl⟩
  | stopped => exact .inr rfl
  | resolving | authorizing | connecting | greeting | announcing | adopting | reading | delivering
    | replying | ending | closing | draining => cases down

/-- Its own turn is to end, when it was cancelled. -/
theorem Proceeds.stops {r : Result} (proceeds : Proceeds s r) (down : s.stage.phase = .down) :
    ∃ wake, s.stage = .sleeping wake ∧ s.cancelled = true ∧ r = s.goTo .stopped := by
  cases proceeds with
  | stop stage cancelled => exact ⟨_, stage, cancelled, rfl⟩
  | abandon seeking => cases seeking.symm.trans down
  | lose stage =>
    rcases stage with ⟨id, stage⟩ | stage <;>
      · rw [stage] at down
        cases down
  | leave stage | adopt stage | replied stage | stuck stage | close stage | letGo stage
    | finish stage =>
    rw [stage] at down
    cases down

/-- While a session rests it waits for the time of its next attempt alone, and to be cancelled. -/
theorem Resting.awaits {r : Result} (h : s.Resting) (step : s.step? i = some r)
    (awaited : i.IsAwaited) : (i = .proceed ∨ i = .wake) ∧ ∃ wake, s.stage = .sleeping wake := by
  have down := h.down
  cases step?_steps step with
  | resolved stage | authorized stage | connected stage | announced stage | delivered stage =>
    rw [stage] at down
    cases down
  | received reads =>
    rcases reads.stage with stage | stage <;>
      · rw [stage] at down
        cases down
  | proceed proceeds =>
    obtain ⟨wake, stage, -⟩ := proceeds.stops down
    exact ⟨.inl rfl, wake, stage⟩
  | wake stage => exact ⟨.inr rfl, _, stage⟩
  | write | wrote | ping | endKeepalive | tick | wallClock | cancel | report | reported | command =>
    exact awaited.elim

/-- **A session that rests does nothing**, neither for its callers nor with answers that come late.
-/
theorem Resting.silent {r : Result} (h : s.Resting) (step : s.step? i = some r)
    (aside : ¬i.IsAwaited) : r.2 = [] := by
  cases step?_steps step with
  | resolved | authorized | connected | received | announced | delivered | proceed | wake =>
    exact absurd trivial aside
  | write writes =>
    cases writes with
    | take there | exhaust _ there => cases h.connection.symm.trans there
  | wrote there | ping there | endKeepalive there => cases h.connection.symm.trans there
  | tick | wallClock | cancel => rfl
  | report => rw [report, h.readyLink?]
  | reported answers =>
    cases answers with
    | drop => rfl
    | publish _ linked => cases h.link.symm.trans linked
  | command => rw [send, h.command]

/-- As long as it does, no attempt begins. -/
theorem Resting.same_attempt (h : s.Resting) (step : s.step? i = some (s', effects))
    (aside : ¬i.IsAwaited) : s'.epoch = s.epoch := by
  have same : s'.stage = s.stage := step?_stage step aside
  rcases (step?_change step).attempts_or with ⟨-, seeking, -⟩ | ⟨-, same'⟩
  · rw [core, same, h.down] at seeking
    cases seeking
  · exact same'

/-- **How a session goes on from a rest**: it rests on, it has ended because it was cancelled, or
the next attempt begins because it is time. -/
inductive Rises (s : Session) (wake : Nat) (s' : Session) (effects : List Effect) : Prop where
  | rest (stage : s'.stage = .sleeping wake) (epoch : s'.epoch = s.epoch)
  | stop (cancelled : s.cancelled = true) (stage : s'.stage = .stopped) (epoch : s'.epoch = s.epoch)
  | attempt (due : wake ≤ s.clock) (begun : (s', effects) = s.attempt)

theorem Resting.rises (h : s.Resting) (stage : s.stage = .sleeping wake)
    (step : s.step? i = some (s', effects)) : Rises s wake s' effects := by
  by_cases awaited : i.IsAwaited
  · rcases (h.awaits step awaited).1 with rfl | rfl
    · obtain ⟨-, -, cancelled, stopped⟩ := (proceed?_proceeds step).stops h.down
      cases stopped
      exact .stop cancelled rfl rfl
    · obtain ⟨wake', sleeping, due, begun⟩ := wake?_eq_some_iff.mp step
      cases stage.symm.trans sleeping
      exact .attempt due begun
  · have same : s'.stage = s.stage := step?_stage step awaited
    exact .rest (same.trans stage) (h.same_attempt step awaited)

/-- **A session that has ended stays so**, and does nothing. -/
theorem Resting.stays (h : s.Resting) (stage : s.stage = .stopped)
    (step : s.step? i = some (s', effects)) :
    s'.stage = .stopped ∧ s'.epoch = s.epoch ∧ effects = [] := by
  have aside : ¬i.IsAwaited := by
    intro awaited
    obtain ⟨-, wake, sleeping⟩ := h.awaits step awaited
    cases stage.symm.trans sleeping
  have same : s'.stage = s.stage := step?_stage step aside
  exact ⟨same.trans stage, h.same_attempt step aside, h.silent step aside⟩

/-! ## Without a link -/

/-- Without a link nothing is published. -/
theorem Core.Placed.publishes_nothing {k : Core} {c : Cluster.State} (h : k.Placed)
    (unlinked : k.link = none) : ¬Publishes k i c epoch := by
  have placed := h.phase
  unfold Core.InPhase at placed
  intro source
  cases source with
  | adopted phase =>
    rw [phase] at placed
    obtain ⟨⟨id, linked⟩, -⟩ := placed
    cases unlinked.symm.trans linked
  | pushed phase =>
    rw [phase] at placed
    obtain ⟨id, linked⟩ := placed.link
    cases unlinked.symm.trans linked
  | answered _ linked => cases unlinked.symm.trans linked

/-- A link comes from the answer to an announcement alone. -/
theorem Change.unlinked {k k' : Core} (change : Change k i k' effects) (unlinked : k.link = none)
    (unannounced : i.announcement? = none) : k'.link = none := by
  cases change with
  | announced => cases unannounced
  | finish => rfl
  | quiet | connect | greet | adopt | push | fall | attempt | report | drop | answer | post =>
    exact unlinked

/-! ## The gauge of a run -/

theorem Gauge.cancelled_next (g : Gauge) (i : Input) :
    (g.next i).cancelled = true ↔ g.cancelled = true ∨ i = .cancel := by
  unfold Gauge.next
  split
  · simp
  · simp
  · simp
  · simp
  · rename_i other _ _
    exact (or_iff_left other).symm

theorem step?_cancelled (step : s.step? i = some (s', effects)) :
    s'.cancelled = true ↔ s.cancelled = true ∨ i = .cancel := by
  have next := s.gauge.cancelled_next i
  rw [← step?_gauge step] at next
  exact next

/-- **A session is cancelled by its caller alone.** -/
theorem Run.cancelled_iff (run : Run config now ms s) :
    s.cancelled = true ↔ ∃ m ∈ ms, m.input = .cancel := by
  induction run with
  | start =>
    have fresh : (Session.start config now).1.cancelled = false :=
      congrArg Gauge.cancelled (attempt_steady { config, now }).gauge
    simp [fresh]
  | step run h ih =>
    rw [step?_cancelled h, ih]
    simp [or_and_right, exists_or]

/-- The clock only goes forward. -/
theorem step?_clock_le (step : s.step? i = some (s', effects)) : s.clock ≤ s'.clock := by
  have gauge := congrArg Gauge.clock (step?_gauge step)
  have later : s.gauge.clock ≤ (s.gauge.next i).clock := by
    unfold Gauge.next
    split
    · exact Nat.le_succ _
    · exact Nat.le_refl _
    · exact Nat.le_refl _
    · exact Nat.le_refl _
    · exact Nat.le_refl _
  exact Nat.le_trans later (Nat.le_of_eq gauge.symm)

/-! ## The end of an attempt and what follows -/

/-- **An attempt ends** at a moment. -/
structure Moment.Ends (m : Moment) : Prop where
  before : m.before.stage.phase ≠ .down
  after : m.after.stage.phase = .down

/-- What an attempt leaves at its end: the snapshot, and the time of the next attempt. -/
theorem Run.left_at_end (run : Run config now past m.before)
    (step : m.before.step? m.input = some (m.after, m.effects)) (ends : m.Ends) :
    m.effects = [] ∧ m.after.link = none ∧ m.after.snapshot = m.before.snapshot ∧
      m.after.published = m.before.published ∧ m.after.epoch = m.before.epoch ∧
      m.after.stage = if m.before.cancelled then .stopped
        else .sleeping (m.before.clock + config.reconnectDelay) := by
  obtain ⟨after, effects⟩ := Prod.mk.inj (step?_finish step ends.before ends.after)
  have told : m.before.config = config := run.counted.config
  rw [after, effects, ← told]
  exact ⟨rfl, rfl, rfl, rfl, rfl, rfl⟩

theorem attempt_epoch (s : Session) : s.attempt.1.epoch = s.epoch + 1 :=
  congrArg Core.epoch (attempt_core s)

/-- **A session that waits** for the time of its next attempt, or has made it by then. -/
structure Waits (epoch wake : Nat) (s : Session) : Prop where
  later : epoch ≤ s.epoch
  rests : s.epoch = epoch → s.stage = .stopped ∨ s.stage = .sleeping wake
  begun : epoch < s.epoch → wake ≤ s.clock

/-- Whenever an attempt begins, the session has waited. -/
theorem Waits.due {wake' : Nat} (h : Waits epoch wake s) (sleeping : s.stage = .sleeping wake')
    (due : wake' ≤ s.clock) : wake ≤ s.clock := by
  by_cases on : s.epoch = epoch
  · rcases h.rests on with stopped | here
    · cases stopped.symm.trans sleeping
    · cases here.symm.trans sleeping
      exact due
  · exact h.begun (Nat.lt_of_le_of_ne h.later (Ne.symm on))

theorem Waits.step (h : Waits epoch wake s) (run : Run config now ms s)
    (step : s.step? i = some (s', effects)) : Waits epoch wake s' := by
  have later := step?_epoch_le step
  have clock := step?_clock_le step
  by_cases on : s.epoch = epoch
  · rcases h.rests on with stopped | sleeping
    · have rest := run.resting (by rw [stopped]; rfl)
      have same : s'.epoch = s.epoch := by
        rcases (step?_change step).attempts_or with ⟨-, seeking, -⟩ | ⟨-, same⟩
        · rw [core, (rest.stays stopped step).1] at seeking
          cases seeking
        · exact same
      exact ⟨by omega, fun _ => .inl (rest.stays stopped step).1, fun begun => by omega⟩
    · have rest := run.resting (by rw [sleeping]; rfl)
      cases rest.rises sleeping step with
      | rest stage same => exact ⟨by omega, fun _ => .inr stage, fun begun => by omega⟩
      | stop _ stage same => exact ⟨by omega, fun _ => .inl stage, fun begun => by omega⟩
      | attempt due begun =>
        have after : s' = s.attempt.1 := congrArg Prod.fst begun
        have next : s'.epoch = s.epoch + 1 := after ▸ attempt_epoch s
        exact ⟨by omega, fun here => by omega, fun _ => by omega⟩
  · have earlier : epoch < s.epoch := Nat.lt_of_le_of_ne h.later (Ne.symm on)
    exact ⟨by omega, fun here => by omega, fun _ => Nat.le_trans (h.begun earlier) clock⟩

/-- The next attempt begins when the session has waited. -/
theorem Run.waits (run : Run config now ms s) (split : ms = past ++ m :: rest) (ends : m.Ends) :
    Waits m.before.epoch (m.before.clock + config.reconnectDelay) s := by
  obtain ⟨before, step⟩ := run.moment split
  obtain ⟨-, -, -, -, same, stage⟩ := before.left_at_end step ends
  refine run.since
    (P := fun _ s => Waits m.before.epoch (m.before.clock + config.reconnectDelay) s) split
    ⟨Nat.le_of_eq same.symm, fun _ => ?_, fun later => ?_⟩ fun run h step => h.step run step
  · rw [stage]
    split
    · exact .inl rfl
    · exact .inr rfl
  · rw [same] at later
    exact absurd later (Nat.lt_irrefl _)

/-- **An attempt begins when it is time.** -/
theorem Run.begun (run : Run config now ms s) (step : s.step? i = some (s', effects))
    (next : s'.epoch ≠ s.epoch) :
    (s', effects) = s.attempt ∧ ∃ wake, s.stage = .sleeping wake ∧ wake ≤ s.clock := by
  have down : s.stage.phase = .down := by
    apply Classical.byContradiction
    exact fun up => next (step?_epoch_eq step up)
  have rest := run.resting down
  rcases sleeping_or_stopped down with ⟨wake, stage⟩ | stage
  · cases rest.rises stage step with
    | rest _ same | stop _ _ same => exact absurd same next
    | attempt due begun => exact ⟨begun, wake, stage, due⟩
  · exact absurd (rest.stays stage step).2.1 next

/-- It has the next number. -/
theorem Run.begins (run : Run config now ms s) (step : s.step? i = some (s', effects))
    (next : s'.epoch ≠ s.epoch) :
    s'.epoch = s.epoch + 1 ∧ ∃ wake, s.stage = .sleeping wake ∧ wake ≤ s.clock := by
  obtain ⟨begun, due⟩ := run.begun step next
  have after : s' = s.attempt.1 := congrArg Prod.fst begun
  exact ⟨after ▸ attempt_epoch s, due⟩

/-- Until the next announcement is answered, there is no link and the snapshot stays. -/
theorem Run.keeps_snapshot (run : Run config now ms s) (split : ms = past ++ m :: rest)
    (unlinked : m.after.link = none) (unannounced : ∀ m' ∈ rest, m'.input.announcement? = none) :
    s.link = none ∧ s.snapshot = m.after.snapshot ∧ s.published = m.after.published := by
  refine run.since (P := fun rest s => (∀ m' ∈ rest, m'.input.announcement? = none) →
    s.link = none ∧ s.snapshot = m.after.snapshot ∧ s.published = m.after.published) split
    (fun _ => ⟨unlinked, rfl, rfl⟩) ?_ unannounced
  intro rest s i s' effects run h step unannounced
  obtain ⟨earlier, last⟩ := List.forall_mem_append.mp unannounced
  obtain ⟨link, snapshot, published⟩ := h earlier
  have change := step?_change step
  have link' : s'.link = none := change.unlinked link (last _ (List.mem_singleton.mpr rfl))
  rcases change.publishes_or with ⟨-, same, count⟩ | ⟨c, epoch, source, -⟩
  · exact ⟨link', Eq.trans same snapshot, Eq.trans count published⟩
  · exact absurd source (run.placed.publishes_nothing link)

/-! ## Sessions that have ended -/

/-- **A session that has ended was cancelled.** -/
theorem Run.cancelled_of_stopped (run : Run config now ms s) (stopped : s.stage = .stopped) :
    s.cancelled = true := by
  induction run with
  | start =>
    obtain ⟨stage, line, seeking⟩ := start_line config now
    have here : (Session.start config now).1.stage = stage := congrArg Line.stage line
    rw [← here, stopped] at seeking
    cases seeking
  | @step ms s i s' effects run h ih =>
    refine (step?_cancelled h).mpr (.inl ?_)
    by_cases down : s.stage.phase = .down
    · have rest := run.resting down
      rcases sleeping_or_stopped down with ⟨wake, stage⟩ | stage
      · cases rest.rises stage h with
        | rest stage' => cases stopped.symm.trans stage'
        | stop cancelled => exact cancelled
        | attempt _ begun =>
          have seeking : s.attempt.1.stage.phase = .seeking :=
            congrArg Core.phase (attempt_core s)
          rw [← congrArg (·.1) begun, stopped] at seeking
          cases seeking
      · exact ih stage
    · have after := congrArg (·.1.stage) (step?_finish h down (by rw [stopped]; rfl))
      rw [stopped] at after
      by_cases cancelled : s.cancelled = true
      · exact cancelled
      · simp [finish, goTo, cancelled] at after

/-- A session that has ended does nothing any more. -/
theorem Run.stopped_of_stopped (run : Run config now ms s) (split : ms = past ++ m :: rest)
    (stopped : m.after.stage = .stopped) : s.stage = .stopped ∧ s.snapshot = m.after.snapshot ∧
      ∀ m' ∈ rest, m'.effects = [] := by
  refine run.since (P := fun rest s => s.stage = .stopped ∧ s.snapshot = m.after.snapshot ∧
    ∀ m' ∈ rest, m'.effects = []) split ⟨stopped, rfl, List.forall_mem_nil _⟩ ?_
  intro rest s i s' effects run h step
  obtain ⟨stage, snapshot, silent⟩ := h
  obtain ⟨stays, -, nothing⟩ := (run.resting (by rw [stage]; rfl)).stays stage step
  refine ⟨stays, ?_, forall_mem_concat silent nothing⟩
  rcases (step?_change step).publishes_or with ⟨-, same, -⟩ | ⟨c, epoch, -, published, -⟩
  · exact Eq.trans same snapshot
  · cases nothing.symm.trans published

end RemotePlayback.Session
