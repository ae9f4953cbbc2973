import RemotePlayback.Proofs.Session.Pause

/-! All the ways in which an attempt ends.

The directory, the token or the connection cannot be had; the connection ends or breaks; the first
frame is no handshake, or another one follows; the announcement is refused. Each of these ends the
attempt, and but for the loss of a text and a cancelled session nothing else does. -/

namespace RemotePlayback.Session

open Playback Dealer

variable {config : Config} {now : Int64} {ms : List Moment} {s s' : Session} {i : Input} {l : Line}
  {effects : List Effect} {c : Connection}

/-! ## Why an attempt fails -/

/-- **What makes an attempt fail**, writes left aside. -/
inductive Fails (s : Session) : Input → Prop where
  | unresolved {cause} (stage : s.stage = .resolving) : Fails s (.resolved (.error cause))
  | unauthorized {base cause} (stage : s.stage = .authorizing base) :
      Fails s (.authorized (.error cause))
  | unconnected {cause} (stage : s.stage = .connecting) : Fails s (.connected (.error cause))
  | unread {cause} (stage : s.stage = .greeting ∨ s.stage = .reading) :
      Fails s (.received (.failed cause))
  | ended (stage : s.stage = .greeting ∨ s.stage = .reading) : Fails s (.received .ended)
  | ungreeted {text} (stage : s.stage = .greeting) (unnamed : handshakeId? text = none) :
      Fails s (.received (.text text))
  | unannounced {id cause} (stage : s.stage = .announcing id) :
      Fails s (.announced (.error cause))
  | intruded {text} (stage : s.stage = .reading) (handshake : IsHandshake text) :
      Fails s (.received (.text text))

/-- Only an attempt under way can fail. -/
theorem Fails.early (fails : Fails s i) : s.rank < 5 := by
  cases fails with
  | unresolved stage | unauthorized stage | unconnected stage | ungreeted stage
    | unannounced stage | intruded stage => simp [rank, stage, Stage.phase, Phase.rank]
  | unread stage | ended stage =>
    rcases stage with stage | stage <;> simp [rank, stage, Stage.phase, Phase.rank]

theorem late_of_finish (step : some s.finish = some (s', effects)) : 5 ≤ s'.rank := by
  have after : s.finish.1 = s' := congrArg Prod.fst (Option.some.inj step)
  rw [← after, rank, finish_phase]
  exact Nat.le_succ 5

theorem late_of_fail {cause : Failure} (step : some (s.fail cause) = some (s', effects)) :
    5 ≤ s'.rank := by
  cases step
  exact Nat.le_refl 5

/-- **An attempt that fails is over.** -/
theorem Fails.late (fails : Fails s i) (step : s.step? i = some (s', effects)) : 5 ≤ s'.rank := by
  cases fails with
  | unresolved | unconnected =>
    obtain ⟨-, step⟩ := Option.ite_none_right_eq_some.mp step
    exact late_of_finish step
  | unauthorized stage =>
    simp only [step?, stage] at step
    exact late_of_finish step
  | unread stage | ended stage =>
    rcases stage with stage | stage <;>
      · simp only [step?, received?, stage] at step
        exact late_of_fail step
  | ungreeted stage unnamed =>
    simp only [step?, received?, stage, greet] at step
    unfold handshakeId? at unnamed
    split at step
    · exact late_of_fail step
    · rename_i frame read
      simp only [read] at unnamed
      simp only [unnamed] at step
      exact late_of_fail step
  | unannounced stage =>
    simp only [step?, stage] at step
    exact late_of_fail step
  | intruded stage handshake =>
    obtain ⟨uri, headers, read⟩ := handshake
    simp only [step?, received?, stage, handle, read] at step
    exact late_of_fail step

/-! ## Lost connections -/

/-- A connection is cancelled only when its writer is gone, or when the attempt parts. -/
def Line.Held (l : Line) : Prop := ∀ c, l.connection = some c → c.cancelled = true →
  c.writerGone = true ∨ l.stage.IsParting

theorem held_keep {stage : Stage} (h : s.line.Held) (before : ¬s.stage.IsParting) :
    Line.Held ⟨stage, s.connection⟩ :=
  fun c there cancelled => .inl ((h c there cancelled).resolve_right before)

theorem Flow.held (flow : Flow s i l effects) (h : s.line.Held) : l.Held := by
  cases flow with
  | stay | pass => exact h
  | idle before => exact held_keep h (free_of_away before).not_parting
  | turn before => exact held_keep h (free_of_up before).not_parting
  | fall before => exact held_keep h (free_of_canFall before).not_parting
  | unreplied due => exact held_keep h (not_parting_of_replyDue due)
  | refuse before | instruct before | takeOver before | stuck before | intrude before =>
    exact held_keep h (by rw [before]; exact id)
  | connect =>
    intro c there cancelled
    cases there
    cases cancelled
  | greet before =>
    intro c' there cancelled
    obtain ⟨c, here, rfl⟩ := Option.map_eq_some_iff.mp there
    refine .inl ((h c here cancelled).resolve_right fun parting => ?_)
    rw [show s.line.stage = .greeting from before] at parting
    exact parting
  | reply due there handed =>
    intro c' there' cancelled
    cases there'
    have gone := (h _ there (handed.cancelled.symm.trans cancelled)).resolve_right
      (not_parting_of_replyDue due)
    cases handed.was.symm.trans gone
  | farewell _ _ _ _ _ after =>
    intro c' there' cancelled
    right
    rcases after with rfl | rfl <;> trivial
  | part | letGo => exact fun _ _ _ => .inr trivial
  | finish | attempt =>
    intro c there
    cases there
  | write there taken =>
    intro c' there' cancelled
    cases there'
    right
    refine (h _ there (taken.cancelled.symm.trans cancelled)).resolve_left fun gone => ?_
    cases taken.was.symm.trans gone
  | exhaust =>
    intro c' there' _
    cases there'
    exact .inl rfl
  | wrote there wrote =>
    intro c' there' cancelled
    cases there'
    cases wrote with
    | written =>
      have held := h _ there cancelled
      exact held
    | failed | closed => exact .inl rfl
  | beat there _ beat =>
    intro c' there' cancelled
    cases there'
    cases beat with
    | rest =>
      have held := h _ there cancelled
      exact held
    | ping handed =>
      right
      refine (h _ there (handed.cancelled.symm.trans cancelled)).resolve_left fun gone => ?_
      cases handed.was.symm.trans gone
    | giveUp gone => exact .inl gone
  | silence there =>
    intro c' there' cancelled
    cases there'
    have held := h _ there cancelled
    exact held

theorem Run.held (run : Run config now ms s) : s.line.Held := by
  apply run.line_induction
  · intro stage _ c there
    cases there
  · exact Flow.held

/-- **Where a connection is lost, a text was.** -/
theorem Run.lost_of_broken (run : Run config now ms s) (early : s.rank < 5)
    (there : s.connection = some c) (broken : c.cancelled = true ∨ c.writerGone = true) :
    ∃ m ∈ during ms s.epoch, m.Loses := by
  have open_ : ¬s.stage.IsParting := by
    intro parting
    rcases isParting_iff.mp parting with stage | stage <;>
      simp [rank, stage, Stage.phase, Phase.rank] at early
  have gone : c.writerGone = true := by
    rcases broken with cancelled | gone
    · exact (run.held c there cancelled).resolve_right open_
    · exact gone
  apply Classical.byContradiction
  intro none
  have kept : ∀ m ∈ during ms s.epoch, ¬m.Loses := fun m mem lost => none ⟨m, mem, lost⟩
  obtain ⟨last, conveyed, current, -⟩ := run.conveyed s.epoch kept
  rw [current rfl] at conveyed
  exact open_ ((conveyed.orderly c there).gone gone).1

/-! ## All the ways in which an attempt ends -/

theorem reply_late {key : String} (late : 5 ≤ (s.reply key).1.rank) :
    ∀ c, s.connection = some c → c.writerGone = true := by
  unfold reply at late
  split at late
  · rename_i refused
    intro c there
    rw [there] at refused
    exact Connection.submit?_eq_none_iff.mp refused
  · split at late <;> simp [goTo, rank, Stage.phase, Phase.rank] at late

theorem delivered_late {event : Event} {key : String}
    (late : 5 ≤ (s.delivered event key).1.rank) :
    ∀ c, s.connection = some c → c.writerGone = true := by
  unfold delivered at late
  split at late
  · split at late
    · simp [instruct, rank, Stage.phase, Phase.rank] at late
    · exact reply_late late
  · exact reply_late late

/-- A text ends an attempt by a breach of the protocol, or when there is nobody to write the reply.
-/
theorem Flow.of_text {text : String} (flow : Flow s (.received (.text text)) l effects)
    (early : s.stage.phase.rank < 5) (late : 5 ≤ l.stage.phase.rank) :
    Fails s (.received (.text text)) ∨ ∀ c, s.connection = some c → c.writerGone = true := by
  cases flow with
  | stay unread | idle _ _ unread | turn _ _ unread | fall _ unread | finish _ _ unread =>
    cases unread
  | pass => exact absurd late (Nat.not_le_of_lt early)
  | greet | instruct => simp [Stage.phase, Phase.rank] at late
  | reply _ _ _ after =>
    rcases after with rfl | rfl <;> simp [Stage.phase, Phase.rank] at late
  | refuse before unnamed => exact .inl (.ungreeted before unnamed)
  | intrude before handshake => exact .inl (.intruded before handshake)
  | unreplied _ gone => exact .inr gone

/-- Of its own accord the session ends an attempt when it is cancelled, or its connection is lost.
-/
theorem Proceeds.late {r : Result} (proceeds : Proceeds s r) (early : s.rank < 5)
    (late : 5 ≤ r.1.rank) : s.cancelled = true ∨
      ∃ c, s.connection = some c ∧ (c.cancelled = true ∨ c.writerGone = true) := by
  cases proceeds with
  | abandon _ cancelled => exact .inl cancelled
  | leave _ there severed | lose _ there severed =>
    exact severed.imp_right fun cancelled => ⟨_, there, .inl cancelled⟩
  | stuck _ there gone => exact .inr ⟨_, there, .inr gone⟩
  | adopt | replied => simp [goTo, rank, Stage.phase, Phase.rank] at late
  | close stage | letGo stage | finish stage | stop stage =>
    simp [rank, stage, Stage.phase, Phase.rank] at early

/-- **The ways in which an attempt ends** are those listed, the loss of a text, and the cancellation
of the session. -/
theorem Run.ends {r : Result} (run : Run config now ms s) (step : s.step? i = some r)
    (early : s.rank < 5) (late : 5 ≤ r.1.rank) :
    Fails s i ∨ s.cancelled = true ∨ ∃ m ∈ during ms s.epoch, m.Loses := by
  -- where the session talks to its connection, a connection that is gone was lost
  have lost (high : 1 ≤ s.rank) (gone : ∀ c, s.connection = some c → c.writerGone = true) :
      ∃ m ∈ during ms s.epoch, m.Loses := by
    obtain ⟨c, there⟩ := Option.ne_none_iff_exists'.mp fun none => by
      rcases run.wired.mp none with away | away
      · simp [rank, show s.stage.phase = .seeking from away, Phase.rank] at high
      · simp [rank, show s.stage.phase = .down from away, Phase.rank] at early
    exact run.lost_of_broken early there (.inr (gone c there))
  cases step?_steps step with
  | @resolved answer stage =>
    cases answer with
    | error cause => exact .inl (.unresolved stage)
    | ok endpoints => exact absurd late (Nat.not_succ_le_zero 4)
  | @authorized _ answer stage =>
    cases answer with
    | error cause => exact .inl (.unauthorized stage)
    | ok token => exact absurd late (Nat.not_succ_le_zero 4)
  | @connected answer stage =>
    cases answer with
    | error cause => exact .inl (.unconnected stage)
    | ok _ => simp [connected, rank, Stage.phase, Phase.rank] at late
  | @received received _ reads =>
    cases received with
    | failed cause => exact .inl (.unread reads.stage)
    | ended => exact .inl (.ended reads.stage)
    | text text =>
      refine ((step?_flow step).of_text early late).imp_right fun gone => .inr (lost ?_ gone)
      rcases reads.stage with stage | stage <;> simp [rank, stage, Stage.phase, Phase.rank]
  | @announced _ answer stage =>
    cases answer with
    | error cause => exact .inl (.unannounced stage)
    | ok cluster => simp [announced, rank, Stage.phase, Phase.rank] at late
  | delivered stage =>
    refine .inr (.inr (lost ?_ (delivered_late late)))
    simp [rank, stage, Stage.phase, Phase.rank]
  | proceed proceeds =>
    rcases proceeds.late early late with cancelled | ⟨c, there, broken⟩
    · exact .inr (.inl cancelled)
    · exact .inr (.inr (run.lost_of_broken early there broken))
  | wake stage => simp [rank, stage, Stage.phase, Phase.rank] at early
  | write | wrote | ping | endKeepalive | tick | wallClock | cancel | report | reported | command =>
    have same := step?_stage step id
    rw [rank, same] at late
    exact absurd late (Nat.not_le_of_lt early)

end RemotePlayback.Session
