import RemotePlayback.Proofs.Session.History

/-! When the answer to a report counts.

A report goes out on the link of its time, and anything may happen until it is answered: pushes, the
loss of the connection, any number of further attempts, one of which may be given the same id again.
An answer is taken up by the link that is there when it comes. Links of different attempts differ by
their epochs, and a link that was taken away never comes back, so a late answer changes nothing;
neither does a failure. Without a link that was seen there is no report at all. -/

namespace RemotePlayback.Session

open Playback Dealer

variable {config : Config} {now : Int64} {ms : List Moment} {s s' : Session} {k k' : Core}
  {i : Input} {effects : List Effect} {link : Link}

/-! ## Links that are gone -/

namespace Core

/-- **A link is gone**: its attempt is over. -/
def Gone (k : Core) (link : Link) : Prop :=
  link.epoch < k.epoch ∨ link.epoch = k.epoch ∧ k.phase = .down

/-- A link that is gone is not there. -/
theorem Gone.unlinked (gone : k.Gone link) (placed : k.Placed) : k.link ≠ some link := by
  intro linked
  have current := placed.link_epoch linked
  rcases gone with earlier | ⟨-, down⟩
  · omega
  · have here := placed.phase
    rw [InPhase, down] at here
    cases here.1.symm.trans linked

/-- A link that is gone stays so. -/
theorem Gone.change (gone : k.Gone link) (change : Change k i k' effects) : k'.Gone link := by
  rcases change.attempts_or with ⟨-, -, next⟩ | ⟨stays, same⟩
  · left
    rcases gone with earlier | ⟨eq, -⟩ <;> omega
  · rcases gone with earlier | ⟨eq, down⟩
    · exact .inl (same ▸ earlier)
    · -- between two attempts nothing happens but the next attempt
      refine .inr ⟨eq.trans same.symm, ?_⟩
      cases change with
      | quiet | report | drop | answer | post => exact down
      | connect phase | greet phase | announced phase | adopt phase | push phase =>
        cases phase.symm.trans down
      | fall phase =>
        rw [down] at phase
        exact phase.elim
      | finish => rfl
      | attempt => exact absurd ⟨down, rfl⟩ stays

/-- A link stays until its attempt is over. -/
theorem linked_or_gone (placed : k.Placed) (linked : k.link = some link)
    (change : Change k i k' effects) : k'.link = some link ∨ k'.Gone link := by
  cases change with
  | quiet | connect | greet | adopt | push | fall | attempt | report | drop | answer | post =>
    exact .inl linked
  | announced phase =>
    have here := placed.phase
    rw [InPhase, phase] at here
    cases here.link.symm.trans linked
  | finish => exact .inr (.inr ⟨placed.link_epoch linked, rfl⟩)

/-- A call is pending until its own answer comes. -/
theorem mem_calls_change {call : Call} (pending : call ∈ k.calls)
    (other : ∀ answer, i ≠ .reported call.number answer) (change : Change k i k' effects) :
    call ∈ k'.calls := by
  have remembered (c : Call) (different : call.number ≠ c.number) :
      call ∈ (k.forget c.number).calls := by
    refine List.mem_filter.mpr ⟨pending, ?_⟩
    simpa using different
  cases change with
  | drop | answer => exact remembered _ fun same => other _ (by rw [same])
  | report => exact List.mem_append_left _ pending
  | quiet | connect | greet | announced | adopt | push | fall | finish | attempt | post =>
    exact pending

end Core

/-! ## Between a report and its answer -/

/-- Whether an input answers the report with a number. -/
def Input.Answers (i : Input) (number : Nat) : Prop := ∃ answer, i = .reported number answer

/-- **What is known while a report is under way**, after the moments since it was sent. -/
structure UnderWay (number : Nat) (link : Link) (since : List Moment) (s : Session) : Prop where
  pending : (∀ m ∈ since, ¬m.input.Answers number) → ⟨number, link⟩ ∈ s.calls
  linked : (s.link = some link ∧ ∀ m ∈ since, m.before.link = some link) ∨ s.core.Gone link

theorem UnderWay.step {number : Nat} {since : List Moment} (h : UnderWay number link since s)
    (placed : s.core.Placed) (change : Change s.core i s'.core effects) :
    UnderWay number link (since ++ [⟨s, i, s', effects⟩]) s' := by
  constructor
  · intro unanswered
    obtain ⟨earlier, last⟩ := List.forall_mem_append.mp unanswered
    have other := List.forall_mem_singleton.mp last
    exact Core.mem_calls_change (h.pending earlier) (fun answer eq => other ⟨answer, eq⟩) change
  · rcases h.linked with ⟨linked, always⟩ | gone
    · rcases Core.linked_or_gone placed linked change with linked' | gone
      · exact .inl ⟨linked', forall_mem_concat always linked⟩
      · exact .inr gone
    · exact .inr (gone.change change)

/-- A report on a link that was seen is sent once, under a new number. -/
theorem report_of_linked (player : Cluster.PlayerState) (linked : s.link = some link)
    (seen : s.snapshot.epoch = link.epoch) :
    s.report player = (.sent (s.callCount + 1),
      { s with calls := s.calls ++ [⟨s.callCount + 1, link⟩], callCount := s.callCount + 1 },
      [.report (some (s.callCount + 1)) link.connectionId
        (Device.playerReport s.config.device s.config.deviceId player s.now)]) := by
  rw [report, readyLink?_eq_some_iff.mpr ⟨linked, seen⟩]

/-- Without a link that was seen a report is over before it is sent. -/
theorem report_of_unready (player : Cluster.PlayerState)
    (unready : s.link = none ∨ ∃ link, s.link = some link ∧ s.snapshot.epoch ≠ link.epoch) :
    s.report player = (.done (.ok ()), s, []) := by
  have none : s.readyLink? = none := by
    rw [Option.eq_none_iff_forall_ne_some]
    intro link ready
    obtain ⟨linked, seen⟩ := readyLink?_eq_some_iff.mp ready
    rcases unready with unlinked | ⟨other, there, unseen⟩
    · cases unlinked.symm.trans linked
    · cases there.symm.trans linked
      exact unseen seen
  rw [report, none]

/-- A report is under way from the moment at which it is sent. -/
theorem Run.underWay {past since : List Moment} {m : Moment} {player : Cluster.PlayerState}
    (run : Run config now ms s) (split : ms = past ++ m :: since) (call : m.input = .report player)
    (linked : m.before.link = some link) (seen : m.before.snapshot.epoch = link.epoch) :
    UnderWay (m.before.callCount + 1) link since s := by
  obtain ⟨-, stepped⟩ := run.moment split
  rw [call] at stepped
  have sent : (m.before.report player).2 = (m.after, m.effects) := Option.some.inj stepped
  rw [report_of_linked player linked seen] at sent
  obtain ⟨after, -⟩ := Prod.mk.inj sent
  refine run.since split ⟨fun _ => ?_, .inl ⟨?_, fun m' mem => nomatch mem⟩⟩ ?_
  · rw [← after]
    exact List.mem_append_right _ (List.mem_singleton.mpr rfl)
  · rw [← after]
    exact linked
  · intro since s i s' effects run h stepped
    exact h.step run.placed (step?_change stepped)

/-- The answer to a pending report is dropped if it is a failure, or if the link is another. -/
theorem Run.reported_dropped {number : Nat} (run : Run config now ms s)
    (pending : (⟨number, link⟩ : Call) ∈ s.calls) (answer : Except Failure Cluster.State)
    (late : (∃ cause, answer = .error cause) ∨ s.link ≠ some link) :
    s.step? (.reported number answer) =
      some ({ s with calls := s.calls.filter (·.number != number) }, []) := by
  have found : s.calls.find? (·.number == number) = some ⟨number, link⟩ :=
    run.placed.find?_call pending
  show s.reported? number answer = _
  rw [reported?, found, Option.map_some]
  cases answer with
  | error cause => rfl
  | ok cluster =>
    have other : s.link ≠ some link := late.resolve_left nofun
    exact congrArg some (if_neg fun current => other current.1)

/-- **An answer counts only on the link of its report.** A report that is made without a link, or
before anything was seen on it, is over at once and sends nothing. Else one report is sent. Whatever
happens then, its answer can come for as long as it has not come yet; and if it is a failure, or if
the link was taken away at any time since, even if another one with the same id is there now, the
session remains as it is, but for the report no longer being under way. -/
theorem answer_counts_only_on_its_link {past since : List Moment} {m : Moment}
    {player : Cluster.PlayerState} (run : Run config now ms s) (split : ms = past ++ m :: since)
    (call : m.input = .report player) :
    ((m.before.link = none ∨
        ∃ link, m.before.link = some link ∧ m.before.snapshot.epoch ≠ link.epoch) →
      m.before.report player = (.done (.ok ()), m.before, []) ∧
        m.after = m.before ∧ m.effects = []) ∧
    ∀ link, m.before.link = some link → m.before.snapshot.epoch = link.epoch →
      ∃ number body, m.before.report player = (.sent number, m.after, m.effects) ∧
        m.effects = [.report (some number) link.connectionId body] ∧
        ((∀ m' ∈ since, ¬m'.input.Answers number) → ∀ answer,
          ((∃ cause, answer = .error cause) ∨ s.link ≠ some link ∨
            ∃ m' ∈ since, m'.before.link ≠ some link) →
          s.step? (.reported number answer) =
            some ({ s with calls := s.calls.filter (·.number != number) }, [])) := by
  obtain ⟨-, stepped⟩ := run.moment split
  rw [call] at stepped
  have made : (m.before.report player).2 = (m.after, m.effects) := Option.some.inj stepped
  constructor
  · intro unready
    have ended := report_of_unready player unready
    rw [ended] at made
    obtain ⟨after, none⟩ := Prod.mk.inj made
    exact ⟨ended, after.symm, none.symm⟩
  · intro link linked seen
    have sent := report_of_linked player linked seen
    have under := run.underWay split call linked seen
    rw [sent] at made
    obtain ⟨after, effects⟩ := Prod.mk.inj made
    refine ⟨m.before.callCount + 1, _, ?_, effects.symm, fun unanswered answer late => ?_⟩
    · rw [sent, ← after, ← effects]
    · refine run.reported_dropped (under.pending unanswered) answer (late.imp_right fun lost => ?_)
      rcases under.linked with ⟨there, always⟩ | gone
      · rcases lost with other | ⟨m', mem, other⟩
        · exact other
        · exact absurd (always m' mem) other
      · exact gone.unlinked run.placed

/-- A report of the first attempt is answered on the second, whose connection has the same id. -/
theorem answer_on_renewed_connection : ∃ past m since s,
    Run sampleConfig 0 (past ++ m :: since) s ∧ m.input = .report {} ∧
    m.before.link = some ⟨"one", 1⟩ ∧ s.link = some ⟨"one", 2⟩ ∧
    s.step? (.reported 1 (.ok { activeDeviceId := "phone" })) =
      some ({ s with calls := s.calls.filter (·.number != 1) }, []) := by
  have renewed : (replay? sampleConfig 0
      (joining "one" {} ++ .report {} :: (losing ++ joining "one" {}))).map (·.2.link) =
        some (some ⟨"one", 2⟩) := by decide +kernel
  have told : (replay? sampleConfig 0 (joining "one" {})).map (fun run =>
      (run.2.link, run.2.snapshot.epoch, run.2.callCount)) = some (some ⟨"one", 1⟩, 1, 0) := by
    decide +kernel
  obtain ⟨⟨ms, s⟩, replayed, renewed⟩ := Option.map_eq_some_iff.mp renewed
  have run := Run.of_replay? replayed
  obtain ⟨past, m, since, rfl, before, call⟩ := split_of_replay? replayed
  rw [before, Option.map_some, Option.some.injEq, Prod.mk.injEq, Prod.mk.injEq] at told
  obtain ⟨linked, seen, count⟩ := told
  obtain ⟨-, sent⟩ := answer_counts_only_on_its_link run rfl call
  obtain ⟨number, body, made, -, dropped⟩ := sent ⟨"one", 1⟩ linked seen
  obtain rfl : number = 1 := by
    rw [report_of_linked {} linked seen, count] at made
    exact (Reporting.sent.inj (congrArg Prod.fst made)).symm
  have unanswered : ∀ m' ∈ since, ¬m'.input.Answers 1 := by
    rintro m' mem ⟨answer, eq⟩
    have later : m' ∈ past ++ m :: since := List.mem_append_right _ (List.mem_cons_of_mem _ mem)
    have among := List.mem_map_of_mem (f := (·.input)) later
    rw [inputs_of_replay? replayed, eq] at among
    simp [losing, joining] at among
  refine ⟨past, m, since, s, run, call, linked, renewed, dropped unanswered _ (.inr (.inl ?_))⟩
  rw [renewed]
  decide

end RemotePlayback.Session
