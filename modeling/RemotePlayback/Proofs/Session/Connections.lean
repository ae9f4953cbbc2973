import Mathlib.Data.List.Basic
import RemotePlayback.Proofs.Session.Gauge
import RemotePlayback.Proofs.Session.Parting

/-! Which connection belongs to which attempt.

Connections are numbered in the order in which they are made. An attempt makes one connection at
most, and whatever is written on the attempt is written to it. The session connects only where there
is no connection, so the writers of all connections before have come to their end by then. -/

namespace RemotePlayback.Session

open Playback Dealer

variable {config : Config} {now : Int64} {ms past rest : List Moment} {m : Moment}
  {s s' : Session} {i : Input} {l : Line} {effects : List Effect} {epoch n : Nat} {f : Outbound}

/-! ## One step -/

theorem Still.not_write (h : Still effects) : .write n f ∉ effects := by
  intro mem
  have none := List.filterMap_eq_nil_iff.mp h.frames _ mem
  cases none

/-- **What is written was taken** from what was to be written on the connection. -/
theorem Flow.of_write (flow : Flow s i l effects) (mem : .write n f ∈ effects) :
    ∃ c c', s.connection = some c ∧ c.Taken f c' ∧ n = c.number ∧ effects = [.write n f] ∧
      l = ⟨s.stage, some c'⟩ := by
  cases flow with
  | stay _ _ mum | idle _ _ _ mum | turn _ _ _ mum | attempt _ _ mum =>
    exact absurd mem mum.toStill.not_write
  | pass _ _ _ still => exact absurd mem still.not_write
  | connect | refuse | reply | unreplied | fall | stuck | intrude | farewell | part | letGo | finish
    | exhaust | wrote | beat | silence => cases mem
  | greet | instruct | takeOver => cases List.mem_singleton.mp mem
  | write there taken =>
    cases List.mem_singleton.mp mem
    exact ⟨_, _, there, taken, taken.number, rfl, rfl⟩

/-- A connection keeps its number. -/
theorem Flow.keeps_number {c' : Connection} (flow : Flow s i l effects)
    (there : l.connection = some c') :
    (∃ c, s.connection = some c ∧ c'.number = c.number) ∨ ∃ answer, i = .connected answer := by
  rcases flow.turns there with ⟨c, here, turns⟩ | ⟨-, made, -⟩
  · exact .inl ⟨c, here, turns.number⟩
  · exact .inr made

/-- A connection goes only when its writer is gone. -/
theorem Flow.writerGone_of_gone {c : Connection} (flow : Flow s i l effects)
    (wired : s.line.Wired) (there : s.connection = some c) (gone : l.connection = none) :
    c.writerGone = true := by
  have not_away : ¬s.stage.IsAway := by
    intro away
    cases there.symm.trans (wired.mpr away)
  cases flow with
  | stay | pass | idle | refuse | turn | instruct | takeOver | unreplied | fall | stuck | intrude =>
    cases there.symm.trans gone
  | greet => cases there.symm.trans (Option.map_eq_none_iff.mp gone)
  | connect | reply | farewell | part | letGo | write | exhaust | wrote | beat
    | silence => cases gone
  | attempt before => exact absurd (.inr before) not_away
  | finish before =>
    rcases before with before | ⟨-, none⟩ | ⟨-, c', here, ended⟩
    · exact absurd (.inl before) not_away
    · cases there.symm.trans none
    · cases there.symm.trans here
      exact ended

/-- A connection is made on the answer that an attempt was waiting for. -/
theorem connecting_of_opening {c : Connection} (step : s.step? i = some (s', effects))
    (none : s.connection = none) (there : s'.connection = some c) :
    s.stage = .connecting ∧ ∃ answer, i = .connected answer := by
  rcases (step?_flow step).keeps_number there with ⟨c', here, -⟩ | ⟨answer, rfl⟩
  · cases none.symm.trans here
  · obtain ⟨stage, -⟩ := Option.ite_none_right_eq_some.mp step
    exact ⟨stage, answer, rfl⟩

/-- **A connection is made where there was none**, under the next number, by an attempt that was
seeking one. -/
theorem step?_opening {c : Connection} (step : s.step? i = some (s', effects))
    (none : s.connection = none) (there : s'.connection = some c) :
    c.number = s.connections + 1 ∧ s'.connections = s.connections + 1 ∧ s.rank = 0 ∧
      s'.epoch = s.epoch := by
  obtain ⟨stage, answer, rfl⟩ := connecting_of_opening step none there
  obtain ⟨-, made⟩ := Option.ite_none_right_eq_some.mp step
  cases answer with
  | error cause =>
    cases made
    cases there
  | ok _ =>
    cases made
    cases there
    exact ⟨rfl, rfl, by rw [rank, stage]; rfl, rfl⟩

/-- While there is a connection, none is made and no attempt begins. -/
theorem step?_connections_eq {c c' : Connection} (step : s.step? i = some (s', effects))
    (wired : s.line.Wired) (there : s.connection = some c) (there' : s'.connection = some c') :
    c'.number = c.number ∧ s'.connections = s.connections ∧ s'.epoch = s.epoch := by
  have not_away : ¬s.stage.IsAway := by
    intro away
    cases there.symm.trans (wired.mpr away)
  have epoch : s'.epoch = s.epoch := step?_epoch_eq step fun down => not_away (.inr down)
  have unconnected : ∀ answer, i ≠ .connected answer := by
    rintro answer rfl
    obtain ⟨stage, -⟩ := Option.ite_none_right_eq_some.mp step
    exact not_away (.inl (by rw [stage]; rfl))
  have gauge := step?_gauge step
  refine ⟨?_, ?_, epoch⟩
  · rcases (step?_flow step).keeps_number there' with ⟨c₀, here, same⟩ | ⟨answer, eq⟩
    · cases there.symm.trans here
      exact same
    · exact absurd eq (unconnected answer)
  · have same : (s.gauge.next i).connections = s.connections := by
      cases i with
      | connected answer => exact absurd rfl (unconnected answer)
      | resolved answer => cases answer <;> rfl
      | _ => rfl
    rw [← same, ← gauge]
    rfl

/-- Connections are only ever added. -/
theorem step?_connections_le (step : s.step? i = some (s', effects)) :
    s.connections ≤ s'.connections := by
  have gauge := congrArg Gauge.connections (step?_gauge step)
  have more : s.gauge.connections ≤ (s.gauge.next i).connections := by
    unfold Gauge.next
    split
    · exact Nat.le_refl _
    · exact Nat.le_refl _
    · exact Nat.le_succ _
    · exact Nat.le_refl _
    · exact Nat.le_refl _
  exact Nat.le_trans more (Nat.le_of_eq gauge.symm)

/-! ## Openings -/

/-- The connection that is made at a moment, and the attempt that makes it. -/
def Moment.opening? (m : Moment) : Option (Nat × Nat) :=
  if m.before.connection = none then m.after.connection.map fun c => (c.number, m.before.epoch)
  else none

/-- **The connections that were made**, each with its attempt. -/
def openings (ms : List Moment) : List (Nat × Nat) := ms.filterMap Moment.opening?

theorem openings_append (ms more : List Moment) :
    openings (ms ++ more) = openings ms ++ openings more := List.filterMap_append ..

/-- **The writer of a connection came to its end.** -/
def Finished (ms : List Moment) (n : Nat) : Prop :=
  ∃ m ∈ ms, ∃ c, m.before.connection = some c ∧ c.number = n ∧ c.writerGone = true

theorem Finished.append (more : List Moment) (h : Finished ms n) : Finished (ms ++ more) n := by
  obtain ⟨m, mem, ended⟩ := h
  exact ⟨m, List.mem_append_left _ mem, ended⟩

/-- **What is known of the connections**: their numbers and attempts ascend, the one that is there
is the last one, and the writers of all others have come to their end. -/
structure Ledger (ms : List Moment) (s : Session) : Prop where
  ascending : (openings ms).Pairwise fun a b => a.1 < b.1 ∧ a.2 < b.2
  counted : ∀ o ∈ openings ms, o.1 ≤ s.connections
  past : ∀ o ∈ openings ms, o.2 ≤ s.epoch ∧ (s.rank = 0 → o.2 < s.epoch)
  current : ∀ c, s.connection = some c →
    c.number = s.connections ∧ (c.number, s.epoch) ∈ openings ms
  finished : ∀ o ∈ openings ms, (∃ c, s.connection = some c ∧ c.number = o.1) ∨ Finished ms o.1

/-- Nothing is entered while no connection is made. -/
theorem openings_eq_of_none (none : s.connection ≠ none ∨ s'.connection = none) :
    openings (ms ++ [⟨s, i, s', effects⟩]) = openings ms := by
  have nothing : Moment.opening? ⟨s, i, s', effects⟩ = Option.none := by
    unfold Moment.opening?
    rcases none with there | gone
    · exact if_neg there
    · rw [gone, Option.map_none, ite_self]
  rw [openings, List.filterMap_append, List.filterMap_cons_none nothing, List.filterMap_nil,
    List.append_nil, openings]

/-- The connection that is made is entered last. -/
theorem openings_eq_of_opening {c : Connection} (none : s.connection = none)
    (there : s'.connection = some c) :
    openings (ms ++ [⟨s, i, s', effects⟩]) = openings ms ++ [(c.number, s.epoch)] := by
  have entry : Moment.opening? ⟨s, i, s', effects⟩ = some (c.number, s.epoch) := by
    rw [Moment.opening?, if_pos none, there, Option.map_some]
  rw [openings, List.filterMap_append, List.filterMap_cons_some entry, List.filterMap_nil, openings]

/-- At the lowest rank a connection is sought. -/
theorem seeking_of_rank (zero : s.rank = 0) : s.stage.phase = .seeking := by
  unfold rank at zero
  cases phase : s.stage.phase with
  | seeking => rfl
  | greeting | announcing | adopting | live | spent | down => simp [phase, Phase.rank] at zero

/-- An attempt that has not sought a connection yet is a new one, or was as far before. -/
theorem step?_epoch_of_seeking (step : s.step? i = some (s', effects)) (seeking : s'.rank = 0) :
    s.epoch < s'.epoch ∨ s.rank = 0 ∧ s'.epoch = s.epoch := by
  rcases (step?_change step).attempts_or with ⟨-, -, next⟩ | ⟨stays, same⟩
  · exact .inl (Nat.lt_of_lt_of_eq (Nat.lt_succ_self _) (Eq.symm next))
  · have further : s.rank ≤ s'.rank := (step?_change step).rank_le stays
    exact .inr ⟨Nat.le_zero.mp (seeking ▸ further), same⟩

theorem Ledger.past_step (h : Ledger ms s) (step : s.step? i = some (s', effects)) :
    ∀ o ∈ openings ms, o.2 ≤ s'.epoch ∧ (s'.rank = 0 → o.2 < s'.epoch) := by
  intro o mem
  obtain ⟨le, lt⟩ := h.past o mem
  refine ⟨Nat.le_trans le (step?_epoch_le step), fun seeking => ?_⟩
  rcases step?_epoch_of_seeking step seeking with later | ⟨early, same⟩
  · exact Nat.lt_of_le_of_lt le later
  · exact same ▸ lt early

theorem Ledger.counted_step (h : Ledger ms s) (step : s.step? i = some (s', effects)) :
    ∀ o ∈ openings ms, o.1 ≤ s'.connections := fun o mem =>
  Nat.le_trans (h.counted o mem) (step?_connections_le step)

/-- Where there is no connection, the last one has come to its end, if only just now. -/
theorem Ledger.of_none (h : Ledger ms s) (wired : s.line.Wired)
    (step : s.step? i = some (s', effects)) (none : s'.connection = none) :
    Ledger (ms ++ [⟨s, i, s', effects⟩]) s' := by
  have same : openings (ms ++ [⟨s, i, s', effects⟩]) = openings ms :=
    openings_eq_of_none (.inr none)
  refine ⟨same ▸ h.ascending, same ▸ h.counted_step step, same ▸ h.past_step step, ?_, ?_⟩
  · intro c there
    cases none.symm.trans there
  · rw [same]
    intro o mem
    right
    rcases h.finished o mem with ⟨c, there, number⟩ | finished
    · refine ⟨_, List.mem_append_right _ (List.mem_singleton.mpr rfl), c, there, number, ?_⟩
      exact (step?_flow step).writerGone_of_gone wired there none
    · exact finished.append _

/-- A connection that is made is entered behind the others. -/
theorem Ledger.of_opening {c : Connection} (h : Ledger ms s) (wired : s'.line.Wired)
    (step : s.step? i = some (s', effects)) (none : s.connection = none)
    (there : s'.connection = some c) : Ledger (ms ++ [⟨s, i, s', effects⟩]) s' := by
  obtain ⟨number, count, seeking, epoch⟩ := step?_opening step none there
  have more : openings (ms ++ [⟨s, i, s', effects⟩]) = openings ms ++ [(c.number, s.epoch)] :=
    openings_eq_of_opening none there
  have sought : s'.rank ≠ 0 := by
    intro seeking
    cases there.symm.trans (wired.mpr (.inl (seeking_of_rank seeking)))
  refine ⟨?_, ?_, ?_, ?_, ?_⟩
  · rw [more]
    refine List.pairwise_append.mpr ⟨h.ascending, List.pairwise_singleton _ _, ?_⟩
    intro o mem
    refine List.forall_mem_singleton.mpr ⟨?_, (h.past o mem).2 seeking⟩
    exact number ▸ Nat.lt_succ_of_le (h.counted o mem)
  · rw [more]
    exact forall_mem_concat (h.counted_step step) (Nat.le_of_eq (number.trans count.symm))
  · rw [more]
    refine forall_mem_concat (h.past_step step) ?_
    exact ⟨Nat.le_of_eq epoch.symm, fun zero => absurd zero sought⟩
  · intro c' there'
    cases there.symm.trans there'
    rw [more, epoch]
    exact ⟨number.trans count.symm, List.mem_append_right _ (List.mem_singleton.mpr rfl)⟩
  · rw [more]
    refine forall_mem_concat ?_ (.inl ⟨c, there, rfl⟩)
    intro o mem
    rcases h.finished o mem with ⟨c', here, -⟩ | finished
    · cases none.symm.trans here
    · exact .inr (finished.append _)

/-- A connection that is there stays the one that was entered last. -/
theorem Ledger.of_some {c c' : Connection} (h : Ledger ms s) (wired : s.line.Wired)
    (step : s.step? i = some (s', effects)) (there : s.connection = some c)
    (there' : s'.connection = some c') : Ledger (ms ++ [⟨s, i, s', effects⟩]) s' := by
  obtain ⟨number, count, epoch⟩ := step?_connections_eq step wired there there'
  have same : openings (ms ++ [⟨s, i, s', effects⟩]) = openings ms :=
    openings_eq_of_none (.inl (by rw [there]; exact Option.some_ne_none c))
  obtain ⟨last, entered⟩ := h.current c there
  refine ⟨same ▸ h.ascending, same ▸ h.counted_step step, same ▸ h.past_step step, ?_, ?_⟩
  · intro c₀ there₀
    cases there'.symm.trans there₀
    rw [same, number, count, epoch]
    exact ⟨last, entered⟩
  · rw [same]
    intro o mem
    rcases h.finished o mem with ⟨c₀, there₀, number₀⟩ | finished
    · cases there.symm.trans there₀
      exact .inl ⟨c', there', number.trans number₀⟩
    · exact .inr (finished.append _)

theorem Ledger.step (h : Ledger ms s) (wired : s.line.Wired)
    (step : s.step? i = some (s', effects)) : Ledger (ms ++ [⟨s, i, s', effects⟩]) s' := by
  cases after : s'.connection with
  | none => exact h.of_none wired step after
  | some c' =>
    cases before : s.connection with
    | none => exact h.of_opening ((step?_flow step).wired wired) step before after
    | some c => exact h.of_some wired step before after

theorem Run.ledger (run : Run config now ms s) : Ledger ms s := by
  induction run with
  | start =>
    refine ⟨.nil, List.forall_mem_nil _, List.forall_mem_nil _, ?_, List.forall_mem_nil _⟩
    intro c there
    obtain ⟨stage, line, -⟩ := start_line config now
    cases (congrArg Line.connection line).symm.trans there
  | step run h ih => exact ih.step run.wired h

/-- No two attempts share a connection, and no attempt has two. -/
theorem opening_eq {l : List (Nat × Nat)} {a b : Nat × Nat}
    (ascending : l.Pairwise fun a b => a.1 < b.1 ∧ a.2 < b.2) (mem : a ∈ l) (mem' : b ∈ l)
    (same : a.1 = b.1 ∨ a.2 = b.2) : a = b := by
  induction l with
  | nil => cases mem
  | cons o l ih =>
    obtain ⟨first, ascending⟩ := List.pairwise_cons.mp ascending
    rcases List.mem_cons.mp mem with rfl | later
    · rcases List.mem_cons.mp mem' with rfl | later'
      · rfl
      · have above := first b later'
        omega
    · rcases List.mem_cons.mp mem' with rfl | later'
      · have above := first a later
        omega
      · exact ih ascending later later'

/-! ## What is written to a connection -/

/-- The frame that an effect hands to a connection. -/
def Effect.frameTo? (n : Nat) : Effect → Option Outbound
  | .write number frame => if number = n then some frame else none
  | _ => none

/-- **The frames that were written to a connection.** -/
def writtenTo (ms : List Moment) (n : Nat) : List Outbound :=
  ms.flatMap fun m => m.effects.filterMap (Effect.frameTo? n)

/-- Whatever is written goes to the connection of the current attempt. -/
theorem Run.opened_of_write (run : Run config now ms s) (step : s.step? i = some (s', effects))
    (mem : .write n f ∈ effects) : (n, s.epoch) ∈ openings ms := by
  obtain ⟨c, c', there, -, rfl, -⟩ := (step?_flow step).of_write mem
  exact (run.ledger.current c there).2

/-- What is gathered on an attempt is gathered at its moments. -/
theorem flatMap_during {α : Type} (g : Moment → List α) (ms : List Moment) (epoch : Nat) :
    (during ms epoch).flatMap g =
      ms.flatMap fun m => if m.before.epoch = epoch then g m else [] := by
  induction ms with
  | nil => rfl
  | cons m ms ih =>
    rw [List.flatMap_cons, ← ih, during, List.filter_cons]
    by_cases on : m.before.epoch = epoch
    · rw [if_pos on, if_pos (decide_eq_true on), List.flatMap_cons, during]
    · rw [if_neg on, if_neg (by simpa using on), List.nil_append, during]

/-- **What is written to a connection is what is written on its attempt.** -/
theorem Run.writtenTo_eq (run : Run config now ms s) (opened : (n, epoch) ∈ openings ms) :
    writtenTo ms n = written (during ms epoch) := by
  have sent (m : Moment) (mem : m ∈ ms) (k : Nat) (f : Outbound) (sent : .write k f ∈ m.effects) :
      k = n ↔ m.before.epoch = epoch := by
    obtain ⟨past, rest, rfl, before, step⟩ := run.of_mem mem
    have here : (k, m.before.epoch) ∈ openings (past ++ m :: rest) := by
      rw [openings_append]
      exact List.mem_append_left _ (before.opened_of_write step sent)
    constructor
    · exact fun same => congrArg Prod.snd (opening_eq run.ledger.ascending here opened (.inl same))
    · exact fun same => congrArg Prod.fst (opening_eq run.ledger.ascending here opened (.inr same))
  have pointwise : ∀ m ∈ ms, m.effects.filterMap (Effect.frameTo? n) =
      if m.before.epoch = epoch then m.effects.filterMap Effect.frame? else [] := by
    intro m mem
    by_cases on : m.before.epoch = epoch
    · rw [if_pos on]
      apply List.filterMap_congr
      intro e here
      cases e with
      | write k f => exact if_pos ((sent m mem k f here).mpr on)
      | _ => rfl
    · rw [if_neg on, List.filterMap_eq_nil_iff]
      intro e here
      cases e with
      | write k f => exact if_neg fun same => on ((sent m mem k f here).mp same)
      | _ => rfl
  rw [written, flatMap_during, writtenTo]
  exact List.flatMap_congr pointwise

/-! ## Connecting -/

/-- A moment and those after it are steps of one run, and belong to no earlier attempt. -/
theorem Run.later {m' : Moment} (run : Run config now ms s) (split : ms = past ++ m :: rest)
    (mem : m' ∈ m :: rest) : ∃ front, Run config now (past ++ front) m'.before ∧
      m'.before.step? m'.input = some (m'.after, m'.effects) ∧
      m.before.epoch ≤ m'.before.epoch := by
  rcases List.mem_cons.mp mem with rfl | mem
  · obtain ⟨before, step⟩ := run.moment split
    exact ⟨[], by rwa [List.append_nil], step, Nat.le_refl _⟩
  · obtain ⟨front, before, step⟩ := run.after split mem
    have past := before.traced.past m (List.mem_append_right _ List.mem_cons_self)
    exact ⟨m :: front, before, step, past⟩

/-- **The session connects only where there is no connection**: the writers of all connections that
were made before have come to their end, and nothing is written to these any more. -/
theorem Run.connect_alone {url : String} (run : Run config now ms s)
    (split : ms = past ++ m :: rest) (connects : .connect url ∈ m.effects) :
    m.before.connection = none ∧ ∀ o ∈ openings past, Finished past o.1 ∧
      ∀ m' ∈ m :: rest, ∀ f, .write o.1 f ∉ m'.effects := by
  obtain ⟨before, step⟩ := run.moment split
  obtain ⟨base, token, stage, -, -⟩ := step?_connect step connects
  have seeking : m.before.stage.phase = .seeking := by rw [stage]; rfl
  have none : m.before.connection = none := before.wired.mpr (.inl seeking)
  refine ⟨none, fun o mem => ⟨?_, ?_⟩⟩
  · rcases before.ledger.finished o mem with ⟨c, there, -⟩ | finished
    · cases none.symm.trans there
    · exact finished
  · intro m' mem' f sent
    obtain ⟨front, later, step', after⟩ := run.later split mem'
    have entered := later.opened_of_write step' sent
    have known : o ∈ openings (past ++ front) := by
      rw [openings_append]
      exact List.mem_append_left _ mem
    have same : o = (o.1, m'.before.epoch) :=
      opening_eq later.ledger.ascending known entered (.inl rfl)
    have attempt : o.2 = m'.before.epoch := congrArg Prod.snd same
    have earlier := (before.ledger.past o mem).2 (by rw [rank, seeking]; rfl)
    omega

end RemotePlayback.Session
