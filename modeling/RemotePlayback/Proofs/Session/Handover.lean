import RemotePlayback.Proofs.Session.Connections

/-! What is handed over to a connection, and what of it is written.

Replies, pings and the closing frame are handed over to the writer of a connection, which writes
them in that order. Whatever becomes of the connection, the frames that were written are the first
of those that were handed over, and, pings left aside, the first of those that became due on the
attempt: once a frame is left out no other is written. -/

namespace RemotePlayback.Session

open Playback Dealer

variable {config : Config} {now : Int64} {ms past rest : List Moment} {m : Moment}
  {s s' : Session} {i : Input} {l l' : Line} {effects : List Effect} {epoch n : Nat} {f : Outbound}

/-! ## Handing over -/

/-- **The frames that are handed over** between two lines: what is to be written grows by them. -/
def Line.grown (l l' : Line) : List Outbound := l'.unwritten.drop l.unwritten.length

/-- The frames that are handed over at a moment. -/
def Moment.handed (m : Moment) : List Outbound := m.before.line.grown m.after.line

/-- The frames that were handed over. -/
def handed (ms : List Moment) : List Outbound := ms.flatMap Moment.handed

theorem handed_append (ms more : List Moment) : handed (ms ++ more) = handed ms ++ handed more :=
  List.flatMap_append

theorem handed_singleton (m : Moment) : handed [m] = m.handed := List.append_nil _

/-- Nothing is handed over where nothing is added. -/
theorem grown_of_fewer (fewer : l'.unwritten.Sublist l.unwritten) : l.grown l' = [] :=
  List.drop_eq_nil_of_le fewer.length_le

/-- The frame that is handed over is the one that comes last. -/
theorem grown_of_last (last : l'.unwritten = l.unwritten ++ [f]) : l.grown l' = [f] := by
  rw [Line.grown, last, List.drop_left]

/-! ## What is written of what was handed over -/

/-- An attempt that sought a connection does not seek another. -/
theorem step?_sought (step : s.step? i = some (s', effects)) (same : s'.epoch = s.epoch)
    (sought : s.stage.phase ≠ .seeking) : s'.stage.phase ≠ .seeking := by
  intro seeking
  rcases step?_epoch_of_seeking step (by rw [rank, seeking]; rfl) with later | ⟨early, -⟩
  · omega
  · exact sought (seeking_of_rank early)

/-- **Nothing more is written on an attempt**, whose connection has lost its writer. -/
structure Sealed (epoch : Nat) (s : Session) : Prop where
  shut : s.line.Shut
  sought : s.epoch = epoch → s.stage.phase ≠ .seeking

/-- Nothing is handed over any more, either. -/
theorem Sealed.step (h : Sealed epoch s) (on : s.epoch = epoch) (wired : s.line.Wired)
    (step : s.step? i = some (s', effects)) :
    effects.filterMap Effect.frame? = [] ∧ s.line.grown s'.line = [] ∧ Sealed epoch s' := by
  have sought : s'.epoch = epoch → s'.stage.phase ≠ .seeking := fun on' =>
    step?_sought step (on'.trans on.symm) (h.sought on)
  cases (step?_flow step).moves wired with
  | rest silent same _ shut =>
    exact ⟨silent, grown_of_fewer (same ▸ .refl _), shut h.shut (h.sought on), sought⟩
  | forgo silent same _ _ shut => exact ⟨silent, grown_of_fewer (same ▸ .refl _), shut, sought⟩
  | drop silent fewer _ _ shut => exact ⟨silent, grown_of_fewer fewer, shut, sought⟩
  | write there taken => cases taken.was.symm.trans (h.shut _ there)
  | hand there open_ => cases open_.symm.trans (h.shut _ there)

/-- Where the writer goes, nothing more is written on the attempt. -/
theorem sealed_of_drop (step : s.step? i = some (s', effects)) (on : s.epoch = epoch)
    (shut : s'.line.Shut) (sought : s'.stage.phase = .seeking → s.stage.phase = .down) :
    Sealed epoch s' := by
  refine ⟨shut, fun on' seeking => ?_⟩
  rcases (step?_change step).attempts_or with ⟨-, -, next⟩ | ⟨stays, -⟩
  · have next : s'.epoch = s.epoch + 1 := next
    omega
  · exact stays ⟨sought seeking, seeking⟩

/-- Where nobody is there to write, nothing more is written on the attempt. -/
theorem sealed_of_forgo (step : s.step? i = some (s', effects)) (on : s.epoch = epoch)
    (before : ¬s.stage.IsAway) (shut : s'.line.Shut) : Sealed epoch s' := by
  refine sealed_of_drop step on shut fun seeking => ?_
  rcases (step?_change step).attempts_or with ⟨down, -, -⟩ | ⟨-, same⟩
  · exact down
  · exact absurd seeking (step?_sought step same fun seeking => before (.inl seeking))

/-- **What was handed over on an attempt** was written or is still to be written, or the first of it
was written and the rest never will be. -/
inductive Carried (epoch : Nat) (past : List Moment) (s : Session) : Prop where
  | all (balance : written past ++ s.line.unwritten = handed past)
  | first (ended : Sealed epoch s) (first : written past <+: handed past)

theorem Carried.step (h : Carried epoch past s) (on : s.epoch = epoch) (wired : s.line.Wired)
    (step : s.step? i = some (s', effects)) :
    Carried epoch (past ++ [⟨s, i, s', effects⟩]) s' := by
  have handed : handed (past ++ [⟨s, i, s', effects⟩]) = handed past ++ s.line.grown s'.line := by
    rw [handed_append, handed_singleton, Moment.handed]
  have written : written (past ++ [⟨s, i, s', effects⟩]) =
      written past ++ effects.filterMap Effect.frame? := by
    rw [written_append, written_singleton]
  -- where nothing moves, both are what they were
  have still (silent : effects.filterMap Effect.frame? = []) (grown : s.line.grown s'.line = [])
      (first : Session.written past <+: Session.handed past) :
      Session.written (past ++ [⟨s, i, s', effects⟩]) <+:
        Session.handed (past ++ [⟨s, i, s', effects⟩]) := by
    rwa [written, handed, silent, grown, List.append_nil, List.append_nil]
  cases h with
  | first ended first =>
    obtain ⟨silent, grown, ended⟩ := ended.step on wired step
    exact .first ended (still silent grown first)
  | all balance =>
    have first : Session.written past <+: Session.handed past := ⟨_, balance⟩
    cases (step?_flow step).moves wired with
    | rest silent same =>
      refine .all ?_
      rw [written, handed, silent, same, grown_of_fewer (same ▸ .refl _), List.append_nil,
        List.append_nil, balance]
    | forgo silent same before _ shut =>
      exact .first (sealed_of_forgo step on before.1 shut)
        (still silent (grown_of_fewer (same ▸ .refl _)) first)
    | drop silent fewer _ _ shut sought =>
      exact .first (sealed_of_drop step on shut sought) (still silent (grown_of_fewer fewer) first)
    | write there taken sent next =>
      refine .all ?_
      rw [written, handed, sent, grown_of_fewer (next ▸ List.sublist_cons_self ..), List.append_nil,
        List.append_assoc, List.singleton_append, ← next, balance]
    | hand there open_ silent hands last =>
      refine .all ?_
      rw [written, handed, silent, grown_of_last last, last, List.append_nil, ← List.append_assoc,
        balance]

/-- **What became due on an attempt** was handed over or waits for the local player, or the first of
it was handed over and the rest never will be. -/
inductive Settled (epoch : Nat) (past : List Moment) (s : Session) : Prop where
  | all (balance : own (handed past) ++ s.stage.owed = dues past)
  | first (ended : Sealed epoch s) (first : own (handed past) <+: dues past)

theorem Settled.step (h : Settled epoch past s) (on : s.epoch = epoch) (wired : s.line.Wired)
    (step : s.step? i = some (s', effects)) :
    Settled epoch (past ++ [⟨s, i, s', effects⟩]) s' := by
  have handed : own (handed (past ++ [⟨s, i, s', effects⟩])) =
      own (handed past) ++ own (s.line.grown s'.line) := by
    rw [handed_append, handed_singleton, Moment.handed, own_append]
  have dues : dues (past ++ [⟨s, i, s', effects⟩]) = dues past ++ s.due i := by
    rw [dues_append, dues_singleton]
  have still (grown : s.line.grown s'.line = [])
      (first : own (Session.handed past) <+: Session.dues past) :
      own (Session.handed (past ++ [⟨s, i, s', effects⟩])) <+:
        Session.dues (past ++ [⟨s, i, s', effects⟩]) := by
    rw [handed, dues, grown, own_nil, List.append_nil]
    exact first.trans (List.prefix_append ..)
  have moved (balance : own (Session.handed past) ++ s.stage.owed = Session.dues past)
      (owes : own (s.line.grown s'.line) ++ s'.stage.owed = s.stage.owed ++ s.due i) :
      Settled epoch (past ++ [⟨s, i, s', effects⟩]) s' := by
    refine .all ?_
    rw [handed, dues, List.append_assoc, owes, ← List.append_assoc, balance]
  cases h with
  | first ended first =>
    obtain ⟨-, grown, ended⟩ := ended.step on wired step
    exact .first ended (still grown first)
  | all balance =>
    cases (step?_flow step).moves wired with
    | rest _ same owes =>
      refine moved balance ?_
      rw [grown_of_fewer (same ▸ .refl _)]
      exact owes
    | forgo _ same before _ shut =>
      exact .first (sealed_of_forgo step on before.1 shut)
        (still (grown_of_fewer (same ▸ .refl _)) ⟨_, balance⟩)
    | drop _ fewer owes =>
      refine moved balance ?_
      rw [grown_of_fewer fewer]
      exact owes
    | write _ _ _ next owes =>
      refine moved balance ?_
      rw [grown_of_fewer (next ▸ List.sublist_cons_self ..)]
      exact owes
    | hand _ _ _ _ last owes =>
      refine moved balance ?_
      rw [grown_of_last last]
      exact owes

/-! ## Whole attempts -/

theorem carried_nil (seeking : s.Seeking) : Carried epoch [] s := by
  refine .all ?_
  rw [Line.unwritten, show s.line.connection = none from seeking.connection]
  rfl

theorem settled_nil (seeking : s.Seeking) : Settled epoch [] s :=
  .all (free_of_away (.inl seeking.phase)).owed

/-- **The frames that are written on an attempt are the first of those handed over on it**, in the
same order. -/
theorem Run.written_prefix (run : Run config now ms s) (epoch : Nat) :
    written (during ms epoch) <+: handed (during ms epoch) := by
  obtain ⟨last, carried, -⟩ := run.attempt_induction epoch (P := Carried epoch)
    (fun s seeking => carried_nil seeking) fun run on step h => h.step on run.wired step
  cases carried with
  | all balance => exact ⟨_, balance⟩
  | first _ first => exact first

/-- **The frames that are handed over on an attempt, pings left aside, are the first of those that
become due on it**, in the same order. -/
theorem Run.handed_prefix (run : Run config now ms s) (epoch : Nat) :
    own (handed (during ms epoch)) <+: dues (during ms epoch) := by
  obtain ⟨last, settled, -⟩ := run.attempt_induction epoch (P := Settled epoch)
    (fun s seeking => settled_nil seeking) fun run on step h => h.step on run.wired step
  cases settled with
  | all balance => exact ⟨_, balance⟩
  | first _ first => exact first

/-- Each frame that is handed over is a ping, a reply that is due, or a closing frame, and there is
a connection that it is handed over to. -/
theorem Run.hands_of_handed (run : Run config now ms s) (mem : m ∈ ms) (handed : f ∈ m.handed) :
    Hands m.before m.input f ∧ ∃ c, m.before.connection = some c := by
  obtain ⟨past, rest, -, before, step⟩ := run.of_mem mem
  unfold Moment.handed at handed
  cases (step?_flow step).moves before.wired with
  | rest _ same | forgo _ same =>
    rw [grown_of_fewer (same ▸ .refl _)] at handed
    cases handed
  | drop _ fewer =>
    rw [grown_of_fewer fewer] at handed
    cases handed
  | write _ _ _ next =>
    rw [grown_of_fewer (next ▸ List.sublist_cons_self ..)] at handed
    cases handed
  | hand there _ _ hands last =>
    rw [grown_of_last last] at handed
    cases List.mem_singleton.mp handed
    exact ⟨hands, _, there⟩

end RemotePlayback.Session
