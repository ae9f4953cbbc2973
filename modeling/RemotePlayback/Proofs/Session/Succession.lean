import RemotePlayback.Proofs.Session.Failures
import RemotePlayback.Proofs.Session.Resumption

/-! How one attempt follows another.

Whatever an attempt fails for, it comes to its end, the session rests for a while and makes the next
one, and only a cancelled session may make none: no failure is the last word. -/

namespace RemotePlayback.Session

open Playback Dealer

variable {config : Config} {now : Int64} {ms past rest : List Moment} {m : Moment} {s : Session}

/-- **An attempt comes to its result** at a moment, and is over from then on. -/
structure Moment.Concludes (m : Moment) : Prop where
  before : m.before.rank < 5
  after : 5 ≤ m.after.rank

/-- A failure, or the loss of a text, is followed by another attempt. -/
theorem Run.recovers (run : Run config now ms s) (split : ms = past ++ m :: rest)
    (failed : Fails m.before m.input ∨ m.Loses) (current : s.epoch = m.before.epoch)
    (open_ : s.cancelled = false) : Leads config now ms fun s' => s'.epoch = s.epoch + 1 := by
  have falls : Leads config now ms fun s' => s'.epoch = s.epoch ∧ 5 ≤ s'.rank := by
    rcases failed with fails | loses
    · have late := fails.late (run.moment split).2
      exact .here run ⟨rfl, Nat.le_trans late (run.rank_after split current.symm)⟩
    · have doomed := run.doomed split loses
      exact run.falls (doomed.broken current) (doomed.sought current)
  refine falls.trans fun run' patient fallen => ?_
  have next := run'.resumes (run.uncancelled run' patient open_) fallen.2
  rwa [fallen.1] at next

/-- **Attempts follow one another**, whatever they end for. An attempt comes to its result by one of
the listed failures, by the loss of a text, or because the session is cancelled; and each failure is
such a result. At its end the link goes and the snapshot stays as it is, and both are so until the
next announcement is answered. The next attempt has the next number and begins no earlier than the
delay after that end. As long as the session is not cancelled, an attempt that has failed, or has
lost a text, can always be followed by the next one, without anything happening but the turns of the
session and its connection, answers of the local player, and time that passes.

A session ends only if it was cancelled. Once it has, nothing that happens makes it do anything: no
effect follows, the snapshot stays, it is not ready, and it refuses all commands. -/
theorem attempts_follow_one_another (run : Run config now ms s) :
    ∀ past m rest, ms = past ++ m :: rest →
      (m.Concludes → Fails m.before m.input ∨ m.before.cancelled = true ∨
        ∃ m' ∈ during past m.before.epoch, m'.Loses) ∧
      (Fails m.before m.input → m.Concludes) ∧
      (Fails m.before m.input ∨ m.Loses → s.epoch = m.before.epoch → s.cancelled = false →
        Leads config now ms fun s' => s'.epoch = s.epoch + 1) ∧
      (m.Ends → m.effects = [] ∧ m.after.link = none ∧ m.after.snapshot = m.before.snapshot ∧
        m.after.epoch = m.before.epoch ∧
        (m.after.stage = if m.before.cancelled then .stopped
          else .sleeping (m.before.clock + config.reconnectDelay)) ∧
        ((∀ m' ∈ rest, m'.input.announcement? = none) →
          s.link = none ∧ s.snapshot = m.before.snapshot ∧ s.published = m.before.published) ∧
        ∀ m' ∈ rest, m'.after.epoch ≠ m'.before.epoch →
          m'.after.epoch = m'.before.epoch + 1 ∧
          m.before.clock + config.reconnectDelay ≤ m'.before.clock) ∧
      (m.after.stage = .stopped → m.after.cancelled = true ∧ s.stage = .stopped ∧
        s.snapshot = m.after.snapshot ∧ s.connectionId? = none ∧
        (∀ command, s.command command = .error .notReady) ∧ ∀ m' ∈ rest, m'.effects = []) := by
  intro past m rest split
  obtain ⟨before, step⟩ := run.moment split
  refine ⟨?_, ?_, run.recovers split, ?_, ?_⟩
  · intro concludes
    exact before.ends step concludes.before concludes.after
  · intro fails
    exact ⟨fails.early, fails.late step⟩
  · intro ends
    obtain ⟨silent, unlinked, snapshot, published, same, stage⟩ := before.left_at_end step ends
    refine ⟨silent, unlinked, snapshot, same, stage, ?_, ?_⟩
    · intro unannounced
      rw [← snapshot, ← published]
      exact run.keeps_snapshot split unlinked unannounced
    · intro m' mem next
      obtain ⟨front, before', step'⟩ := run.after split mem
      obtain ⟨one, wake, sleeping, due⟩ := before'.begins step' next
      exact ⟨one, (before'.waits rfl ends).due sleeping due⟩
  · intro stopped
    obtain ⟨stays, snapshot, silent⟩ := run.stopped_of_stopped split stopped
    have rest := run.resting (by rw [stays]; rfl)
    exact ⟨(before.step step).cancelled_of_stopped stopped, stays, snapshot, rest.connectionId?,
      rest.command, silent⟩

/-- An attempt whose connection ends, up to the moment at which it is over. -/
def interrupted : List Input := joining "one" {} ++ [.received .ended, .proceed, .write]

/-- The next attempt of a session with a delay. -/
theorem attempt_after_interruption : ∃ past m rest s,
    Run { sampleConfig with reconnectDelay := 2 } 0 (past ++ m :: rest) s ∧ m.Ends ∧
      s.snapshot = m.before.snapshot ∧ s.link = none ∧ s.epoch = 2 ∧
      ∀ m' ∈ rest, m'.after.epoch ≠ m'.before.epoch → 2 ≤ m'.before.clock := by
  let config := { sampleConfig with reconnectDelay := 2 }
  have ended : (replay? config 0 (interrupted ++ .proceed :: [.tick, .tick, .wake])).map
      (·.2.epoch) = some 2 := by decide +kernel
  have told : (replay? config 0 interrupted).map (fun run =>
      (run.2.stage, (run.2.step? .proceed).map (·.1.stage), run.2.clock)) =
        some (.draining, some (.sleeping 2), 0) := by decide +kernel
  obtain ⟨⟨ms, s⟩, replayed, ended⟩ := Option.map_eq_some_iff.mp ended
  obtain ⟨past, m, rest, split, before, input⟩ := split_of_replay? replayed
  simp only at split
  subst split
  rw [before, Option.map_some, Option.some.injEq, Prod.mk.injEq, Prod.mk.injEq] at told
  obtain ⟨draining, sleeping, clock⟩ := told
  have run := Run.of_replay? replayed
  have step := (run.moment rfl).2
  rw [input] at step
  rw [step, Option.map_some, Option.some.injEq] at sleeping
  have ends : m.Ends := by
    refine ⟨?_, ?_⟩
    · rw [draining]
      exact Phase.noConfusion
    · rw [sleeping]
      rfl
  obtain ⟨-, -, -, ending, -⟩ := attempts_follow_one_another run past m rest rfl
  obtain ⟨-, -, -, -, -, kept, next⟩ := ending ends
  have inputs : rest.map (·.input) = [.tick, .tick, .wake] := by
    have all := inputs_of_replay? replayed
    have first := inputs_of_replay? before
    rw [List.map_append, first, List.map_cons, input] at all
    exact (List.cons.inj (List.append_cancel_left all)).2
  have unannounced : ∀ m' ∈ rest, m'.input.announcement? = none := by
    intro m' mem
    have among := List.mem_map_of_mem (f := (·.input)) mem
    rw [inputs] at among
    simp only [List.mem_cons, List.not_mem_nil, or_false] at among
    rcases among with input | input | input <;>
      · rw [input]
        rfl
  obtain ⟨unlinked, snapshot, -⟩ := kept unannounced
  refine ⟨past, m, rest, s, run, ends, snapshot, unlinked, ended, ?_⟩
  intro m' mem begun
  have due := (next m' mem begun).2
  rwa [clock] at due

end RemotePlayback.Session
