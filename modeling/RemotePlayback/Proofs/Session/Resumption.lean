import RemotePlayback.Proofs.Session.Closing
import RemotePlayback.Proofs.Session.Handover
import RemotePlayback.Proofs.Session.Pause

/-! How a session goes on after a failure.

An attempt that is over is brought to its end by the session and its connection alone; then time
passes, and the next attempt begins. The loss of a text ends an attempt as well, but the session may
be busy when it happens, and turns away from its connection when it comes to that. -/

namespace RemotePlayback.Session

open Playback Dealer

variable {config : Config} {now : Int64} {ms past rest more : List Moment} {m : Moment}
  {s s' : Session} {i : Input} {l : Line} {effects : List Effect} {epoch wake : Nat}
  {c : Connection}

/-! ## No failure is the last word -/

/-- What happens without the world around: the turns of the session and its connection, writes that
succeed, answers of the local player, and time that passes. -/
def Input.IsPatient : Input → Prop
  | .proceed | .wake | .write | .wrote true | .ping | .endKeepalive | .delivered _ | .tick => True
  | _ => False

theorem Input.IsWork.patient (work : i.IsWork) : i.IsPatient := by
  cases i with
  | proceed | write | ping | endKeepalive => trivial
  | wrote ok =>
    cases ok with
    | true => trivial
    | false => exact work.elim
  | _ => exact work.elim

/-- **A session can go on** to where something holds. -/
def Leads (config : Config) (now : Int64) (ms : List Moment) (P : Session → Prop) : Prop :=
  ∃ more s', Run config now (ms ++ more) s' ∧ (∀ m ∈ more, m.input.IsPatient) ∧ P s'

section Leads

variable {P Q : Session → Prop}

theorem Leads.here (run : Run config now ms s) (h : P s) : Leads config now ms P :=
  ⟨[], s, by rwa [List.append_nil], List.forall_mem_nil _, h⟩

theorem Leads.trans (h : Leads config now ms P)
    (next : ∀ {more s'}, Run config now (ms ++ more) s' → (∀ m ∈ more, m.input.IsPatient) → P s' →
      Leads config now (ms ++ more) Q) : Leads config now ms Q := by
  obtain ⟨more, s, run, patient, here⟩ := h
  obtain ⟨more', s', run', patient', there⟩ := next run patient here
  refine ⟨more ++ more', s', by rwa [← List.append_assoc], ?_, there⟩
  exact List.forall_mem_append.mpr ⟨patient, patient'⟩

/-- A step that leads on. -/
theorem Run.leads (run : Run config now ms s) (step : s.step? i = some (s', effects))
    (patient : i.IsPatient) (next : Run config now (ms ++ [⟨s, i, s', effects⟩]) s' →
      Leads config now (ms ++ [⟨s, i, s', effects⟩]) P) : Leads config now ms P := by
  obtain ⟨more, last, run', patient', there⟩ := next (run.step step)
  refine ⟨⟨s, i, s', effects⟩ :: more, last, ?_, ?_, there⟩
  · rwa [List.append_assoc] at run'
  · exact List.forall_mem_cons.mpr ⟨patient, patient'⟩

end Leads

/-- A session goes on without being cancelled, if nobody does that. -/
theorem Run.uncancelled (run : Run config now ms s) (run' : Run config now (ms ++ more) s')
    (patient : ∀ m ∈ more, m.input.IsPatient) (open_ : s.cancelled = false) :
    s'.cancelled = false := by
  apply Bool.eq_false_iff.mpr
  intro cancelled
  obtain ⟨m, mem, input⟩ := run'.cancelled_iff.mp cancelled
  rcases List.mem_append.mp mem with earlier | later
  · have before := run.cancelled_iff.mpr ⟨m, earlier, input⟩
    cases open_.symm.trans before
  · have patient := patient m later
    rw [input] at patient
    exact patient

/-- While the session rests time passes, until the next attempt begins. -/
theorem Run.rises (run : Run config now ms s) (stage : s.stage = .sleeping wake) :
    Leads config now ms fun s' => s'.epoch = s.epoch + 1 := by
  induction left : wake - s.clock generalizing ms s with
  | zero =>
    have step : s.step? .wake = some s.attempt :=
      wake?_eq_some_iff.mpr ⟨wake, stage, Nat.sub_eq_zero_iff_le.mp left, rfl⟩
    exact run.leads step trivial fun run => .here run (attempt_epoch s)
  | succ n ih =>
    have step : s.step? .tick = some ({ s with clock := s.clock + 1 }, []) := rfl
    have less : wake - (s.clock + 1) = n := by omega
    refine run.leads step trivial fun run => ?_
    have next := ih run stage less
    exact next

/-- **An attempt that is over is followed by another one.** -/
theorem Run.resumes (run : Run config now ms s) (open_ : s.cancelled = false) (late : 5 ≤ s.rank) :
    Leads config now ms fun s' => s'.epoch = s.epoch + 1 := by
  obtain ⟨more, s₁, run₁, works, same, down⟩ := run.closes late
  have patient : ∀ m ∈ more, m.input.IsPatient := fun m mem => (works m mem).patient
  have open₁ := run.uncancelled run₁ patient open_
  refine .trans (P := (· = s₁)) ⟨more, s₁, run₁, patient, rfl⟩ ?_
  rintro more s' run' - rfl
  rcases sleeping_or_stopped down with ⟨wake, sleeping⟩ | stopped
  · rw [← same]
    exact run'.rises sleeping
  · cases open₁.symm.trans (run'.cancelled_of_stopped stopped)

/-! ## After the loss of a text -/

/-- **The connection is lost**: its writer is gone, and it is cancelled. -/
def Line.Broken (l : Line) : Prop := ∀ c, l.connection = some c →
  c.writerGone = true ∧ c.cancelled = true

/-- A connection that is lost stays so. -/
theorem Flow.broken (flow : Flow s i l effects) (h : s.line.Broken)
    (sought : s.stage.phase ≠ .seeking) : l.Broken := by
  intro c' there'
  rcases flow.turns there' with ⟨c, there, turns⟩ | ⟨seeking, -⟩
  · obtain ⟨gone, cancelled⟩ := h c there
    cases turns with
    | touch kept => exact ⟨gone, kept cancelled⟩
    | handed handed => cases handed.was.symm.trans gone
    | taken taken => cases taken.was.symm.trans gone
    | exhausted => exact ⟨rfl, cancelled⟩
    | wrote wrote =>
      cases wrote with
      | written => exact ⟨gone, cancelled⟩
      | failed => exact ⟨rfl, rfl⟩
      | closed => exact ⟨rfl, cancelled⟩
    | giveUp => exact ⟨gone, rfl⟩
  · exact absurd seeking sought

/-- With the loss of a text the connection is lost. -/
theorem step?_loses (loses : s.Loses i) (step : s.step? i = some (s', effects)) :
    s'.line.Broken ∧ s'.stage = s.stage ∧ s'.epoch = s.epoch := by
  obtain ⟨rfl, c, text, there, writing⟩ := loses
  simp only [step?, there, Option.bind_some, Connection.wrote?, writing] at step
  cases step
  refine ⟨?_, rfl, rfl⟩
  intro c' there'
  cases there'
  exact ⟨rfl, rfl⟩

/-- **An attempt on a connection that is lost.** -/
structure Doomed (epoch : Nat) (s : Session) : Prop where
  later : epoch ≤ s.epoch
  broken : s.epoch = epoch → s.line.Broken
  sought : s.epoch = epoch → s.stage.phase ≠ .seeking

theorem Run.doomed (run : Run config now ms s) (split : ms = past ++ m :: rest) (loses : m.Loses) :
    Doomed m.before.epoch s := by
  obtain ⟨before, step⟩ := run.moment split
  obtain ⟨broken, stage, same⟩ := step?_loses loses step
  refine run.since (P := fun _ s => Doomed m.before.epoch s) split
    ⟨Nat.le_of_eq same.symm, fun _ => broken, fun _ seeking => ?_⟩ ?_
  · obtain ⟨-, c, text, there, -⟩ := loses
    rw [stage] at seeking
    cases there.symm.trans (before.wired.mpr (.inl seeking))
  · intro rest s i s' effects run h step
    have later := step?_epoch_le step
    have on (here : s'.epoch = m.before.epoch) : s.epoch = m.before.epoch :=
      Nat.le_antisymm (here ▸ later) h.later
    refine ⟨Nat.le_trans h.later later, fun here => ?_, fun here => ?_⟩
    · exact (step?_flow step).broken (h.broken (on here)) (h.sought (on here))
    · exact step?_sought step (here.trans (on here).symm) (h.sought (on here))

/-- Where the session waits for its connection, it turns away from one that is lost. -/
theorem Run.falls_of_open (run : Run config now ms s) (open_ : s.stage.CanFall)
    (there : s.connection = some c) (cancelled : c.cancelled = true) :
    Leads config now ms fun s' => s'.epoch = s.epoch ∧ 5 ≤ s'.rank := by
  have turns : ∃ s', s.step? .proceed = some (s', []) ∧ s'.epoch = s.epoch ∧ 5 ≤ s'.rank := by
    cases stage : s.stage with
    | greeting =>
      refine ⟨(s.goTo (.ending none)).1, ?_, rfl, Nat.le_refl 5⟩
      simp only [step?, proceed?, stage, there]
      exact if_pos (.inr cancelled)
    | announcing | reading =>
      refine ⟨s.lost.1, ?_, rfl, Nat.le_refl 5⟩
      simp only [step?, proceed?, stage, there]
      exact if_pos (.inr cancelled)
    | resolving | authorizing | connecting | adopting | delivering | replying | ending | closing
      | draining | sleeping | stopped =>
      rw [stage] at open_
      exact open_.elim
  obtain ⟨s', step, fallen⟩ := turns
  exact run.leads step trivial fun run => .here run fallen

theorem reply_of_gone (there : s.connection = some c) (gone : c.writerGone = true) (key : String) :
    s.reply key = s.fail (.transport "writer closed") := by
  have refused : c.submit? .session (.text (replyText key true)) = none :=
    Connection.submit?_eq_none_iff.mpr gone
  rw [reply, there, Option.bind_some, refused]

/-- The session notices that nobody writes its reply once the local player has answered. -/
theorem Run.falls_of_told {event : Event} {key : String} (run : Run config now ms s)
    (stage : s.stage = .delivering event key) (other : event ≠ .transfer)
    (there : s.connection = some c) (gone : c.writerGone = true) :
    Leads config now ms fun s' => s'.epoch = s.epoch ∧ 5 ≤ s'.rank := by
  have step : s.step? (.delivered true) = some (s.fail (.transport "writer closed")) := by
    simp only [step?, stage]
    rw [delivered, if_neg other, reply_of_gone there gone]
  exact run.leads step trivial fun run => .here run ⟨rfl, Nat.le_refl 5⟩

/-- **An attempt on a connection that is lost can be brought to its end.** -/
theorem Run.falls (run : Run config now ms s) (broken : s.line.Broken)
    (sought : s.stage.phase ≠ .seeking) :
    Leads config now ms fun s' => s'.epoch = s.epoch ∧ 5 ≤ s'.rank := by
  by_cases late : 5 ≤ s.rank
  · exact .here run ⟨rfl, late⟩
  obtain ⟨c, there⟩ : ∃ c, s.connection = some c := by
    refine Option.ne_none_iff_exists'.mp fun none => ?_
    rcases run.wired.mp none with seeking | down
    · exact sought seeking
    · exact late (by rw [rank, show s.stage.phase = .down from down]; exact Nat.le_succ 5)
  obtain ⟨gone, cancelled⟩ := broken c there
  cases stage : s.stage with
  | resolving | authorizing | connecting => exact absurd (by rw [stage]; rfl) sought
  | greeting | announcing | reading =>
    exact run.falls_of_open (by rw [stage]; trivial) there cancelled
  | adopting cluster =>
    let published := s.publish cluster s.epoch
    have step : s.step? .proceed = some ({ published.1 with stage := .reading }, published.2) := by
      simp only [step?, proceed?, stage, published]
    exact run.leads step trivial fun run => run.falls_of_open trivial there cancelled
  | replying =>
    by_cases waiting : c.isWaiting .session = true
    · have step : s.step? .proceed = some (s.fail (.transport "writer closed")) := by
        simp only [step?, proceed?, stage, there, waiting, gone]
        rfl
      exact run.leads step trivial fun run => .here run ⟨rfl, Nat.le_refl 5⟩
    · have step : s.step? .proceed = some (s.goTo .reading) := by
        simp only [step?, proceed?, stage, there, waiting]
        rfl
      exact run.leads step trivial fun run => run.falls_of_open trivial there cancelled
  | delivering event key =>
    by_cases transfer : event = .transfer
    · cases playing : s.snapshot.takeover? s.now with
      | none =>
        have step : s.step? (.delivered true) = some (s.fail (.transport "writer closed")) := by
          simp only [step?, stage]
          rw [delivered, if_pos transfer, takeover, playing, reply_of_gone there gone]
        exact run.leads step trivial fun run => .here run ⟨rfl, Nat.le_refl 5⟩
      | some play =>
        -- it is told to go on with what is playing, before the reply
        have step : s.step? (.delivered true) = some (s.instruct (.play play) key) := by
          simp only [step?, stage]
          rw [delivered, if_pos transfer, takeover, playing]
        refine run.leads step trivial fun run => run.falls_of_told rfl ?_ there gone
        exact Event.noConfusion
    · exact run.falls_of_told stage transfer there gone
  | ending | closing | draining | sleeping | stopped =>
    simp [rank, stage, Stage.phase, Phase.rank] at late

end RemotePlayback.Session
