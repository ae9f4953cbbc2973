import RemotePlayback.Proofs.Session.Balance

/-! What was written on an attempt.

Seen over a whole attempt, the frames of the session's own that were written and those that are on
their way are what became due, in that order, as long as no text was lost. Once the attempt is over
nothing is on its way any more. -/

namespace RemotePlayback.Session

open Playback Dealer

variable {config : Config} {now : Int64} {ms : List Moment} {m : Moment} {s s' : Session}
  {i : Input} {effects : List Effect} {epoch : Nat}

/-! ## The moments of an attempt -/

/-- **The moments of an attempt.** -/
def during (ms : List Moment) (epoch : Nat) : List Moment := ms.filter (·.before.epoch = epoch)

theorem mem_during : m ∈ during ms epoch ↔ m ∈ ms ∧ m.before.epoch = epoch := by
  rw [during, List.mem_filter, decide_eq_true_eq]

theorem during_append (ms : List Moment) (m : Moment) (epoch : Nat) :
    during (ms ++ [m]) epoch = during ms epoch ++ if m.before.epoch = epoch then [m] else [] := by
  rw [during, List.filter_append, List.filter_cons, List.filter_nil, during]
  simp only [decide_eq_true_eq]

theorem during_append_of_eq (on : m.before.epoch = epoch) :
    during (ms ++ [m]) epoch = during ms epoch ++ [m] := by
  rw [during_append, if_pos on]

theorem during_append_of_ne (off : m.before.epoch ≠ epoch) :
    during (ms ++ [m]) epoch = during ms epoch := by
  rw [during_append, if_neg off, List.append_nil]

/-- The moments of an attempt before and after one of them. -/
theorem during_split {past rest : List Moment} (on : m.before.epoch = epoch) :
    during (past ++ m :: rest) epoch = during past epoch ++ m :: during rest epoch := by
  rw [during, List.filter_append, List.filter_cons_of_pos (by simpa using on), during, during]

/-- There are no moments yet of an attempt to come. -/
theorem during_eq_nil (past : ∀ m ∈ ms, m.before.epoch < epoch) : during ms epoch = [] := by
  apply List.filter_eq_nil_iff.mpr
  intro m mem
  simpa using Nat.ne_of_lt (past m mem)

/-- Whether an attempt is over. -/
def Over (s : Session) (epoch : Nat) : Prop :=
  epoch < s.epoch ∨ epoch = s.epoch ∧ s.stage.phase = .down

/-! ## Connections in a run -/

theorem start_line (config : Config) (now : Int64) :
    ∃ stage, (start config now).1.line = ⟨stage, none⟩ ∧ stage.phase = .seeking := by
  unfold start attempt
  dsimp only
  split
  · exact ⟨_, rfl, rfl⟩
  · exact ⟨_, rfl, rfl⟩

/-- What holds where a connection is sought, and is kept by every flow, holds throughout a run. -/
theorem Run.line_induction {P : Line → Prop} (run : Run config now ms s)
    (begin_ : ∀ stage : Stage, stage.phase = .seeking → P ⟨stage, none⟩)
    (flow : ∀ {s i l effects}, Flow s i l effects → P s.line → P l) : P s.line := by
  induction run with
  | start =>
    obtain ⟨stage, line, seeking⟩ := start_line config now
    rw [line]
    exact begin_ stage seeking
  | step run h ih => exact flow (step?_flow h) ih

/-- **There is a connection exactly where there should be one**, throughout a run. -/
theorem Run.wired (run : Run config now ms s) : s.line.Wired := by
  apply run.line_induction
  · intro stage seeking
    exact ⟨fun _ => .inl seeking, fun _ => rfl⟩
  · exact Flow.wired

/-- Frames wait only behind a full queue, throughout a run. -/
theorem Run.packed (run : Run config now ms s) : s.line.Packed := by
  apply run.line_induction
  · intro stage _ c there
    cases there
  · exact Flow.packed

/-- Whether a session is about to seek a connection. -/
structure Seeking (s : Session) : Prop where
  phase : s.stage.phase = .seeking
  connection : s.connection = none

/-- **Induction over an attempt**: what holds when an attempt begins and is kept by its steps holds
of its moments and of the session after the last of them. That is the session as it is, or, when
another attempt is under way, one that seeks a connection. -/
theorem Run.attempt_induction {P : List Moment → Session → Prop} (run : Run config now ms s)
    (epoch : Nat) (begin_ : ∀ s, s.Seeking → P [] s)
    (step : ∀ {ms s i s' effects}, Run config now ms s → s.epoch = epoch →
      s.step? i = some (s', effects) → P (during ms epoch) s →
        P (during ms epoch ++ [⟨s, i, s', effects⟩]) s') :
    ∃ last : Session, P (during ms epoch) last ∧ (epoch = s.epoch → last = s) ∧
      (epoch ≠ s.epoch → last.Seeking) := by
  induction run with
  | start =>
    obtain ⟨stage, line, seeking⟩ := start_line config now
    have seeks : (Session.start config now).1.Seeking := by
      refine ⟨?_, congrArg Line.connection line⟩
      rw [← seeking]
      exact congrArg (·.stage.phase) line
    exact ⟨_, begin_ _ seeks, fun _ => rfl, fun _ => seeks⟩
  | @step ms s i s' effects run h ih =>
    obtain ⟨last, holds, current, away⟩ := ih
    have wired := (step?_flow h).wired run.wired
    have attempts := (step?_change h).attempts_or
    by_cases on : s.epoch = epoch
    · -- the step belongs to the attempt, and may be its last one
      rw [during_append_of_eq on]
      rw [current on.symm] at holds
      refine ⟨s', step run on h holds, fun _ => rfl, ?_⟩
      intro other
      rcases attempts with ⟨-, seeking, -⟩ | ⟨-, same⟩
      · exact ⟨seeking, wired.mpr (.inl seeking)⟩
      · exact absurd (on.symm.trans (Eq.symm same)) other
    · -- the step belongs to another attempt, and may begin this one
      rw [during_append_of_ne on]
      by_cases begun : epoch = s'.epoch
      · rcases attempts with ⟨-, seeking, next⟩ | ⟨-, same⟩
        · have next : s'.epoch = s.epoch + 1 := next
          have fresh : during ms epoch = [] := during_eq_nil fun m mem => by
            have before : m.before.epoch ≤ s.epoch := run.traced.past m mem
            omega
          rw [fresh]
          have seeks : s'.Seeking := ⟨seeking, wired.mpr (.inl seeking)⟩
          exact ⟨s', begin_ s' seeks, fun _ => rfl, fun _ => seeks⟩
        · exact absurd (begun.trans same).symm on
      · exact ⟨last, holds, fun eq => absurd eq begun, fun _ => away (Ne.symm on)⟩

/-! ## What was due and what was written -/

/-- The frames that were written. -/
def written (ms : List Moment) : List Outbound :=
  ms.flatMap fun m => m.effects.filterMap Effect.frame?

/-- The frames that became due. -/
def dues (ms : List Moment) : List Outbound := ms.flatMap fun m => m.before.due m.input

theorem written_append (ms more : List Moment) :
    written (ms ++ more) = written ms ++ written more := List.flatMap_append

theorem dues_append (ms more : List Moment) : dues (ms ++ more) = dues ms ++ dues more :=
  List.flatMap_append

theorem written_singleton (m : Moment) : written [m] = m.effects.filterMap Effect.frame? :=
  List.append_nil _

theorem dues_singleton (m : Moment) : dues [m] = m.before.due m.input := List.append_nil _

/-- Whether the text that was being written is lost at a moment. -/
def Moment.Loses (m : Moment) : Prop := m.before.Loses m.input

/-- **Attempts on which no text was lost**: what was written of the session's own, and what is on
its way, is what became due. -/
structure Conveyed (past : List Moment) (s : Session) : Prop where
  orderly : s.line.Orderly
  balance : own (written past) ++ s.line.unsent = dues past

theorem unsent_of_seeking (seeking : s.Seeking) : s.line.unsent = [] :=
  unsent_of_away ⟨fun _ => .inl seeking.phase, fun _ => seeking.connection⟩ (.inl seeking.phase)

theorem conveyed_nil (seeking : s.Seeking) : Conveyed [] s := by
  refine ⟨?_, unsent_of_seeking seeking⟩
  intro c there
  cases there.symm.trans seeking.connection

/-- A step adds to what was due what becomes due. -/
theorem Conveyed.step {past : List Moment} (h : Conveyed past s) (wired : s.line.Wired)
    (packed : s.line.Packed) (flow : Flow s i s'.line effects) (kept : ¬s.Loses i) :
    Conveyed (past ++ [⟨s, i, s', effects⟩]) s' := by
  refine ⟨flow.orderly wired packed h.orderly kept, ?_⟩
  have balance := flow.balance wired packed h.orderly kept
  rw [written_append, dues_append, written_singleton, dues_singleton, own_append]
  calc own (written past) ++ own (effects.filterMap Effect.frame?) ++ s'.line.unsent
      = own (written past) ++ (s.line.unsent ++ s.due i) := by rw [List.append_assoc, balance]
    _ = dues past ++ s.due i := by rw [← List.append_assoc, h.balance]

/-- **Nothing of the session's own is lost, doubled or put in another place** on an attempt on which
no text is lost. -/
theorem Run.conveyed (run : Run config now ms s) (epoch : Nat)
    (kept : ∀ m ∈ during ms epoch, ¬m.Loses) :
    ∃ last : Session, Conveyed (during ms epoch) last ∧ (epoch = s.epoch → last = s) ∧
      (epoch ≠ s.epoch → last.Seeking) := by
  obtain ⟨last, conveyed, place⟩ := run.attempt_induction epoch
    (P := fun past s => (∀ m ∈ past, ¬m.Loses) → Conveyed past s)
    (fun s seeking _ => conveyed_nil seeking) fun run _ h ih kept => by
      obtain ⟨earlier, last⟩ := List.forall_mem_append.mp kept
      have kept := last _ (List.mem_singleton.mpr rfl)
      exact (ih earlier).step run.wired run.packed (step?_flow h) kept
  exact ⟨last, conveyed kept, place⟩

/-- What was written and what is on its way on the current attempt is what became due. -/
theorem Run.written_of_current (run : Run config now ms s)
    (kept : ∀ m ∈ during ms s.epoch, ¬m.Loses) :
    own (written (during ms s.epoch)) ++ s.line.unsent = dues (during ms s.epoch) := by
  obtain ⟨last, conveyed, current, -⟩ := run.conveyed s.epoch kept
  rw [current rfl] at conveyed
  exact conveyed.balance

/-- Once an attempt is over on which no text was lost, all that became due was written. -/
theorem Run.written_of_over (run : Run config now ms s) (ended : s.Over epoch)
    (kept : ∀ m ∈ during ms epoch, ¬m.Loses) :
    own (written (during ms epoch)) = dues (during ms epoch) := by
  rcases ended with earlier | ⟨rfl, down⟩
  · obtain ⟨last, conveyed, -, away⟩ := run.conveyed epoch kept
    have balance := conveyed.balance
    rwa [unsent_of_seeking (away (Nat.ne_of_lt earlier)), List.append_nil] at balance
  · have balance := run.written_of_current kept
    rwa [unsent_of_away run.wired (.inr down), List.append_nil] at balance

end RemotePlayback.Session
