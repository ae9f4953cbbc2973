import RemotePlayback.Proofs.Session.Replies

/-! How an attempt goes through its phases, and how it ends.

An attempt seeks a connection, greets, is announced, is live, parts and is down, and never goes
back. So whatever was read on it before its first frame or after its end is nothing. When it ends
because the far end broke the protocol, one closing frame becomes due, and nothing else does. -/

namespace RemotePlayback.Session

open Playback Dealer

variable {config : Config} {now : Int64} {ms past rest : List Moment} {m : Moment}
  {s s' : Session} {i : Input} {l : Line} {effects : List Effect} {epoch : Nat}

/-! ## Phases -/

/-- **How far an attempt is** in a phase. -/
def Phase.rank : Phase → Nat
  | .seeking => 0
  | .greeting => 1
  | .announcing _ => 2
  | .adopting _ => 3
  | .live => 4
  | .spent => 5
  | .down => 6

/-- How far the attempt of a session is. -/
def rank (s : Session) : Nat := s.stage.phase.rank

/-- A step begins another attempt, or does not go back. -/
theorem Change.rank_le {k k' : Core} (h : Change k i k' effects)
    (stays : ¬(k.phase = .down ∧ k'.phase = .seeking)) : k.phase.rank ≤ k'.phase.rank := by
  cases h with
  | quiet | push | report | drop | answer | post => exact Nat.le_refl _
  | connect phase | greet phase | announced phase | adopt phase =>
    simp [phase, Phase.rank]
  | fall phase =>
    cases open_ : k.phase with
    | greeting | announcing | live => simp [Phase.rank]
    | seeking | adopting | spent | down => exact absurd phase (by rw [open_]; exact not_false)
  | finish phase => rcases phase with phase | phase <;> simp [phase, Phase.rank]
  | attempt phase => exact absurd ⟨phase, rfl⟩ stays

/-- The count of attempts never decreases. -/
theorem step?_epoch_le (step : s.step? i = some (s', effects)) : s.epoch ≤ s'.epoch := by
  rcases (step?_change step).attempts_or with ⟨-, -, next⟩ | ⟨-, same⟩
  · exact Nat.le_of_lt (Nat.lt_of_lt_of_eq (Nat.lt_succ_self _) (Eq.symm next))
  · exact Nat.le_of_eq (Eq.symm same)

/-- Another attempt begins only when this one is down. -/
theorem step?_epoch_eq (step : s.step? i = some (s', effects)) (up : s.stage.phase ≠ .down) :
    s'.epoch = s.epoch := by
  rcases (step?_change step).attempts_or with ⟨down, -, -⟩ | ⟨-, same⟩
  · exact absurd down up
  · exact same

/-- **An attempt goes through its phases in order.** -/
theorem Run.in_order (run : Run config now ms s) : ∀ m ∈ during ms s.epoch,
    m.before.rank ≤ m.after.rank ∧ m.after.rank ≤ s.rank := by
  induction run with
  | start =>
    intro m mem
    cases mem
  | @step ms s i s' effects run h ih =>
    rcases (step?_change h).attempts_or with ⟨-, -, next⟩ | ⟨stays, same⟩
    · -- the next attempt has no moments yet
      have next : s'.epoch = s.epoch + 1 := next
      have none : during (ms ++ [⟨s, i, s', effects⟩]) s'.epoch = [] := by
        apply during_eq_nil
        refine forall_mem_concat ?_ ?_
        · intro m mem
          have before : m.before.epoch ≤ s.epoch := run.traced.past m mem
          omega
        · show s.epoch < s'.epoch
          omega
      rw [none]
      intro m mem
      cases mem
    · have same : s'.epoch = s.epoch := same
      have further : s.rank ≤ s'.rank := (step?_change h).rank_le stays
      rw [same, during_append_of_eq rfl]
      refine forall_mem_concat ?_ ⟨further, Nat.le_refl _⟩
      intro m mem
      obtain ⟨before, after⟩ := ih m mem
      exact ⟨before, Nat.le_trans after further⟩

/-- What comes after a moment of an attempt is as far as that moment, or further. -/
theorem Run.rank_after (run : Run config now ms s) (split : ms = past ++ m :: rest)
    (on : m.before.epoch = s.epoch) : m.after.rank ≤ s.rank := by
  refine (run.in_order m ?_).2
  exact mem_during.mpr ⟨by simp [split], on⟩

/-- What comes before is not further. -/
theorem Run.rank_before (run : Run config now ms s) :
    ∀ m ∈ during ms s.epoch, m.before.rank ≤ s.rank := by
  intro m mem
  obtain ⟨before, after⟩ := run.in_order m mem
  exact Nat.le_trans before after

/-- Before the handshake nothing becomes due. -/
theorem due_of_early (early : s.rank ≤ 1) : s.due i = [] := by
  apply due_eq_nil
  · apply asked?_of_not_reading
    intro stage
    simp [rank, stage, Stage.phase, Phase.rank] at early
  · apply farewell?_of_stays (.inr _)
    intro outcome stage
    simp [rank, stage, Stage.phase, Phase.rank] at early

/-- While the attempt is live only replies become due. -/
theorem due_of_live (live : s.rank ≤ 4) :
    s.due i = ((s.asked? i).map fun key => .text (replyText key true)).toList := by
  have farewell : s.farewell? i = none := farewell?_of_stays (.inr fun outcome stage => by
    simp [rank, stage, Stage.phase, Phase.rank] at live)
  rw [due, farewell, Option.toList_none, List.append_nil]

theorem dues_of_early (early : ∀ m ∈ ms, m.before.rank ≤ 1) : dues ms = [] :=
  List.flatMap_eq_nil_iff.mpr fun m mem => due_of_early (early m mem)

theorem dues_of_live (live : ∀ m ∈ ms, m.before.rank ≤ 4) :
    dues ms = (requests ms).map fun key => .text (replyText key true) := by
  induction ms with
  | nil => rfl
  | cons m ms ih =>
    obtain ⟨here, later⟩ := List.forall_mem_cons.mp live
    have first : dues (m :: ms) = m.before.due m.input ++ dues ms := rfl
    rw [first, ih later, due_of_live here]
    simp only [requests, List.filterMap_cons]
    cases m.before.asked? m.input <;> rfl

/-- Once the attempt parts no request is read. -/
theorem asked?_of_late (late : 5 ≤ s.rank) : s.asked? i = none := by
  apply asked?_of_not_reading
  intro stage
  simp [rank, stage, Stage.phase, Phase.rank] at late

theorem stage_of_received {r : Received} (step : s.step? (.received r) = some (s', effects)) :
    s.stage = .greeting ∨ s.stage = .reading := by
  exact (received?_reads step).stage

/-- Once the attempt parts no frame is read. -/
theorem received?_of_late (late : 5 ≤ s.rank) (r : Received) : s.step? (.received r) = none := by
  cases step : s.step? (.received r) with
  | none => rfl
  | some result =>
    rcases stage_of_received step with stage | stage <;>
      simp [rank, stage, Stage.phase, Phase.rank] at late

/-- Once the attempt parts the local player is told nothing, and nobody is told of changes. -/
theorem Flow.silent_of_late (flow : Flow s i l effects) (late : 5 ≤ s.rank) :
    ∀ e ∈ effects, e.event? = none ∧ ¬e.IsNotice := by
  have of_mum {effects : List Effect} (mum : Mum effects) :
      ∀ e ∈ effects, e.event? = none ∧ ¬e.IsNotice := fun e mem =>
    ⟨List.filterMap_eq_nil_iff.mp mum.events e mem, mum.notices e mem⟩
  have nothing : ∀ e ∈ ([] : List Effect), e.event? = none ∧ ¬e.IsNotice := fun e mem => nomatch mem
  cases flow with
  | stay _ _ mum | idle _ _ _ mum | turn _ _ _ mum | attempt _ _ mum => exact of_mum mum
  | connect | refuse | reply | unreplied | fall | stuck | intrude | farewell | part | letGo | finish
    | exhaust | wrote | beat | silence => exact nothing
  | write => exact List.forall_mem_singleton.mpr ⟨rfl, nofun⟩
  | pass stage | greet stage | instruct stage | takeOver stage =>
    simp [rank, stage, Stage.phase, Phase.rank] at late

/-! ## The end of an attempt -/

/-- An attempt that is to be left stays so until the session turns to it. -/
theorem Flow.of_ending {outcome : Outcome} (flow : Flow s i l effects) (wired : s.line.Wired)
    (stage : s.stage = .ending outcome) :
    (i ≠ .proceed ∧ l.stage = .ending outcome) ∨ (i = .proceed ∧ l.stage.IsParting) := by
  cases flow with
  | stay _ others =>
    refine .inl ⟨fun turn => others ?_, stage⟩
    rw [turn]
    trivial
  | write | wrote | beat | silence => exact .inl ⟨nofun, stage⟩
  | farewell _ _ _ _ _ after =>
    refine .inr ⟨rfl, ?_⟩
    rcases after with rfl | rfl <;> trivial
  | part => exact .inr ⟨rfl, trivial⟩
  | pass before | greet before | refuse before | instruct before | takeOver before | stuck before
    | intrude before | letGo before | exhaust before => cases before.symm.trans stage
  | idle before => exact absurd stage ((free_of_away before).not_ending outcome)
  | connect before => exact absurd stage ((free_of_away (.inl before)).not_ending outcome)
  | attempt before => exact absurd stage ((free_of_away (.inr before)).not_ending outcome)
  | turn before => exact absurd stage ((free_of_up before).not_ending outcome)
  | fall before => exact absurd stage ((free_of_canFall before).not_ending outcome)
  | reply due | unreplied due => cases due with
    | asked before | told before => cases before.symm.trans stage
  | finish before =>
    rcases before with before | ⟨-, none⟩ | ⟨before, -⟩
    · exact absurd stage ((free_of_away (.inl before)).not_ending outcome)
    · exact absurd stage ((free_of_away (wired.mp none)).not_ending outcome)
    · cases before.symm.trans stage

theorem isParting_iff {stage : Stage} :
    stage.IsParting ↔ stage = .closing ∨ stage = .draining := by
  cases stage <;> simp [Stage.IsParting]

theorem not_away_of_parting {stage : Stage} (parting : stage.IsParting) : ¬stage.IsAway := by
  rcases isParting_iff.mp parting with rfl | rfl <;> nofun

/-- An attempt that parts goes on to its end. -/
theorem Flow.of_parting (flow : Flow s i l effects) (parting : s.stage.IsParting) :
    l.stage.IsParting ∨ l.stage.phase = .down := by
  have not_away := not_away_of_parting parting
  cases flow with
  | stay | write | exhaust | wrote | beat | silence => exact .inl parting
  | letGo => exact .inl trivial
  | finish _ after => exact .inr after
  | pass before | greet before | refuse before | instruct before | takeOver before | stuck before
    | intrude before | farewell _ before | part before =>
    rw [before] at parting
    exact parting.elim
  | idle before => exact absurd before not_away
  | connect before => exact absurd (.inl before) not_away
  | attempt before => exact absurd (.inr before) not_away
  | turn before => exact absurd parting (free_of_up before).not_parting
  | fall before => exact absurd parting (free_of_canFall before).not_parting
  | reply due | unreplied due => exact absurd parting (not_parting_of_replyDue due)

/-- The frame that closes a connection on which the protocol was broken. -/
def refusal (detail : String) : Outbound := .close .protocolError detail

/-- Nothing becomes due any more once the closing frame was handed over. -/
theorem due_of_parted (parted : s.stage.IsParting ∨ s.stage.phase = .down) : s.due i = [] := by
  apply due_eq_nil
  · apply asked?_of_not_reading
    intro stage
    rw [stage] at parted
    rcases parted with parting | down
    · exact parting
    · cases down
  · apply farewell?_of_stays (.inr _)
    intro outcome stage
    rw [stage] at parted
    rcases parted with parting | down
    · exact parting
    · cases down

/-- **After the protocol was broken** one closing frame becomes due, when the session turns to it.
-/
inductive Leaving (detail : String) (epoch : Nat) (rest : List Moment) (s : Session) : Prop where
  | ending (on : s.epoch = epoch) (stage : s.stage = .ending (some (.violation detail)))
      (dues : dues (during rest epoch) = [])
  | parted (late : epoch ≤ s.epoch)
      (stage : s.epoch = epoch → s.stage.IsParting ∨ s.stage.phase = .down)
      (dues : dues (during rest epoch) = [refusal detail])

/-- An attempt that is down stays so. -/
theorem down_of_down (step : s.step? i = some (s', effects)) (down : s.stage.phase = .down)
    (on : s'.epoch = s.epoch) : s'.stage.phase = .down := by
  rcases (step?_change step).attempts_or with ⟨-, -, next⟩ | ⟨stays, -⟩
  · have next : s'.epoch = s.epoch + 1 := next
    omega
  · have further : s.rank ≤ s'.rank := (step?_change step).rank_le stays
    unfold rank at further
    rw [down] at further
    cases phase : s'.stage.phase with
    | down => rfl
    | seeking | greeting | announcing | adopting | live | spent =>
      simp [phase, Phase.rank] at further

theorem Leaving.step {detail : String} (h : Leaving detail epoch rest s) (wired : s.line.Wired)
    (step : s.step? i = some (s', effects)) :
    Leaving detail epoch (rest ++ [⟨s, i, s', effects⟩]) s' := by
  have flow := step?_flow step
  cases h with
  | ending on stage dues =>
    have late : 5 ≤ s.rank := by simp [rank, stage, Stage.phase, Phase.rank]
    have same : s'.epoch = s.epoch := step?_epoch_eq step (by rw [stage]; nofun)
    rcases flow.of_ending wired stage with ⟨other, stays⟩ | ⟨rfl, parting⟩
    · -- the session has not turned to it yet
      refine .ending (same.trans on) stays ?_
      have nothing : s.due i = [] :=
        due_eq_nil (asked?_of_late late) (farewell?_of_stays (.inl other))
      rw [during_append_of_eq on, dues_append, dues, dues_singleton, nothing]
      rfl
    · refine .parted (by omega) (fun _ => .inl parting) ?_
      rw [during_append_of_eq on, dues_append, dues, dues_singleton, due_of_ending stage]
      rfl
  | parted late stage dues =>
    by_cases on : s.epoch = epoch
    · have parted := stage on
      have nothing : s.due i = [] := due_of_parted parted
      refine .parted (on ▸ step?_epoch_le step) ?_ ?_
      · intro here
        rcases parted with parting | down
        · exact flow.of_parting parting
        · exact .inr (down_of_down step down (here.trans on.symm))
      · rw [during_append_of_eq on, dues_append, dues, dues_singleton, nothing, List.append_nil]
    · -- what happens on other attempts does not matter
      have later := step?_epoch_le step
      refine .parted (by omega) (fun here => by omega) ?_
      rw [during_append_of_ne on, dues]

theorem Run.leaving {detail : String} (run : Run config now ms s) (split : ms = past ++ m :: rest)
    (on : m.after.epoch = epoch) (stage : m.after.stage = .ending (some (.violation detail))) :
    Leaving detail epoch rest s :=
  run.since split (.ending on stage rfl) fun run h step => h.step run.wired step

/-- Once the attempt is over, the closing frame has become due. -/
theorem Leaving.dues_of_over {detail : String} (h : Leaving detail epoch rest s)
    (ended : s.Over epoch) : dues (during rest epoch) = [refusal detail] := by
  cases h with
  | parted _ _ dues => exact dues
  | ending on stage =>
    rcases ended with earlier | ⟨-, down⟩
    · omega
    · rw [stage] at down
      cases down

/-- **The protocol is broken at a moment**: nothing is done, and the attempt is to be left. -/
structure Moment.Breaks (m : Moment) (detail : String) : Prop where
  effects : m.effects = []
  after : m.after = { m.before with stage := .ending (some (.violation detail)) }
  due : m.before.due m.input = []

/-- What became due on an attempt on which the protocol was broken, now that it is over. -/
theorem Run.dues_of_broken {detail : String} (run : Run config now ms s)
    (split : ms = past ++ m :: rest) (broken : m.Breaks detail) (ended : s.Over m.before.epoch) :
    dues (during ms m.before.epoch) = dues (during past m.before.epoch) ++ [refusal detail] := by
  have leaving : Leaving detail m.before.epoch rest s :=
    run.leaving split (by rw [broken.after]) (by rw [broken.after])
  have here : dues (m :: during rest m.before.epoch) = dues (during rest m.before.epoch) := by
    show m.before.due m.input ++ dues (during rest m.before.epoch) = _
    rw [broken.due, List.nil_append]
  rw [split, during_split rfl, dues_append, here, leaving.dues_of_over ended]

end RemotePlayback.Session
