import RemotePlayback.Proofs.Session.Greeting
import RemotePlayback.Proofs.Session.Handover

/-! How a connection is closed.

An attempt that has come to its result is left at one moment, when the session turns to it. Then a
closing frame may become due, as the last thing that does, and nothing is written behind it. So a
connection gets one closing frame at most, after the replies to all requests, and which one it gets
is told by the result of the attempt and by whether the session was cancelled. -/

namespace RemotePlayback.Session

open Playback Dealer

variable {config : Config} {now : Int64} {ms past rest : List Moment} {m : Moment}
  {s s' : Session} {i : Input} {l : Line} {effects : List Effect} {epoch n : Nat} {f : Outbound}
  {outcome : Outcome}

/-! ## Leaving -/

/-- **The attempt is left** at a moment, with a result. -/
structure Moment.Leaves (m : Moment) (outcome : Outcome) : Prop where
  stage : m.before.stage = .ending outcome
  input : m.input = .proceed

/-- **An attempt that was left.** -/
structure Parted (epoch : Nat) (s : Session) : Prop where
  late : epoch ≤ s.epoch
  stage : s.epoch = epoch → s.stage.IsParting ∨ s.stage.phase = .down

/-- An attempt that was left is not taken up again. -/
theorem Parted.step (h : Parted epoch s) (step : s.step? i = some (s', effects)) :
    Parted epoch s' := by
  have later := step?_epoch_le step
  refine ⟨Nat.le_trans h.late later, fun here => ?_⟩
  have on : s.epoch = epoch := Nat.le_antisymm (here ▸ later) h.late
  rcases h.stage on with parting | down
  · exact (step?_flow step).of_parting parting
  · exact .inr (down_of_down step down (here.trans on.symm))

/-- Nothing becomes due on an attempt that was left. -/
theorem Parted.due (h : Parted epoch s) (on : s.epoch = epoch) : s.due i = [] :=
  due_of_parted (h.stage on)

theorem Parted.of_over (ended : s.Over epoch) : Parted epoch s := by
  rcases ended with later | ⟨on, down⟩
  · exact ⟨Nat.le_of_lt later, fun here => absurd here (Nat.ne_of_gt later)⟩
  · exact ⟨Nat.le_of_eq on, fun _ => .inr down⟩

/-- An attempt that is left was left from then on. -/
theorem Run.parted (run : Run config now ms s) (split : ms = past ++ m :: rest)
    (leaves : m.Leaves outcome) : Parted m.before.epoch s := by
  obtain ⟨before, step⟩ := run.moment split
  have flow := step?_flow step
  refine run.since (P := fun _ s => Parted m.before.epoch s) split ?_ fun _ h step => h.step step
  refine ⟨step?_epoch_le step, fun _ => .inl ?_⟩
  rcases flow.of_ending before.wired leaves.stage with ⟨other, -⟩ | ⟨-, parting⟩
  · exact absurd leaves.input other
  · exact parting

/-- An attempt parts when it is left. -/
theorem Flow.parts (flow : Flow s i l effects) (parting : l.stage.IsParting) :
    s.stage.IsParting ∨ ∃ outcome, s.stage = .ending outcome ∧ i = .proceed := by
  cases flow with
  | stay | pass | write | exhaust | wrote | beat | silence => exact .inl parting
  | letGo before =>
    rw [before]
    exact .inl trivial
  | farewell _ before | part before => exact .inr ⟨_, before, rfl⟩
  | idle before same =>
    exact absurd parting (free_of_away (.imp same.trans same.trans before)).not_parting
  | turn _ after => exact absurd parting (free_of_up after).not_parting
  | finish _ after => exact absurd parting (free_of_away (.inr after)).not_parting
  | attempt _ after => exact absurd parting (free_of_away (.inl after)).not_parting
  | reply _ _ _ after => rcases after with rfl | rfl <;> exact parting.elim
  | connect | greet | refuse | instruct | takeOver | unreplied | fall | stuck | intrude =>
    exact parting.elim

/-- An attempt is over when it never had a connection, or when it parted. -/
theorem Flow.downs (flow : Flow s i l effects) (wired : s.line.Wired)
    (down : l.stage.phase = .down) :
    s.stage.phase = .seeking ∨ s.stage.IsParting ∨ s.stage.phase = .down := by
  cases flow with
  | stay | pass | write | exhaust | wrote | beat | silence => exact .inr (.inr down)
  | idle _ same => exact .inr (.inr (same.symm.trans down))
  | turn _ after => exact absurd (.inr down) (not_away_of_up after)
  | attempt before => exact .inr (.inr before)
  | finish before =>
    rcases before with seeking | ⟨-, none⟩ | ⟨draining, -⟩
    · exact .inl seeking
    · rcases wired.mp none with seeking | down
      · exact .inl seeking
      · exact .inr (.inr down)
    · rw [draining]
      exact .inr (.inl trivial)
  | reply _ _ _ after | farewell _ _ _ _ _ after => rcases after with rfl | rfl <;> cases down
  | connect | greet | refuse | instruct | takeOver | unreplied | fall | stuck | intrude | part
    | letGo => cases down

/-- **An attempt with a connection was left before it was over.** -/
theorem Run.left (run : Run config now ms s) (opened : (n, epoch) ∈ openings ms)
    (parted : Parted epoch s) : ∃ past m rest outcome, ms = past ++ m :: rest ∧
      m.before.epoch = epoch ∧ m.Leaves outcome := by
  induction run with
  | start => cases opened
  | @step ms s i s' effects run h ih =>
    have flow := step?_flow h
    -- the connection is made now, by an attempt that still seeks one, or was made before
    have made : (n, epoch) ∈ openings ms ∨
        s.rank = 0 ∧ s.epoch = epoch ∧ s'.epoch = epoch ∧ s'.connection ≠ none := by
      rw [openings_append] at opened
      rcases List.mem_append.mp opened with earlier | now
      · exact .inl earlier
      · obtain ⟨_, mem, entry⟩ := List.mem_filterMap.mp now
        cases List.mem_singleton.mp mem
        unfold Moment.opening? at entry
        split at entry
        · rename_i none
          obtain ⟨c, there, eq⟩ := Option.map_eq_some_iff.mp entry
          obtain ⟨-, -, seeking, same⟩ := step?_opening h none there
          have on : s.epoch = epoch := congrArg Prod.snd eq
          exact .inr ⟨seeking, on, same.trans on, by rw [there]; exact Option.some_ne_none c⟩
        · cases entry
    by_cases before : Parted epoch s
    · rcases made with earlier | ⟨seeking, on, -⟩
      · obtain ⟨past, m, rest, outcome, rfl, left⟩ := ih earlier before
        exact ⟨past, m, rest ++ _, outcome, by rw [List.append_assoc, List.cons_append], left⟩
      · have free := free_of_away (.inl (seeking_of_rank seeking))
        rcases before.stage on with parting | down
        · exact absurd parting free.not_parting
        · cases (seeking_of_rank seeking).symm.trans down
    · have late : epoch ≤ s.epoch := by
        rcases made with earlier | ⟨-, on, -⟩
        · exact (run.ledger.past _ earlier).1
        · exact Nat.le_of_eq on.symm
      have on : s.epoch = epoch := by
        apply Decidable.byContradiction
        exact fun other => before ⟨late, fun here => absurd here other⟩
      have open_ : ¬(s.stage.IsParting ∨ s.stage.phase = .down) :=
        fun parted => before ⟨late, fun _ => parted⟩
      have same : s'.epoch = epoch := (step?_epoch_eq h fun down => open_ (.inr down)).trans on
      rcases parted.stage same with parting | down
      · obtain ⟨outcome, stage, input⟩ := (flow.parts parting).resolve_left (open_ ∘ .inl)
        exact ⟨ms, ⟨s, i, s', effects⟩, [], outcome, rfl, on, stage, input⟩
      · have seeking := (flow.downs run.wired down).resolve_right open_
        rcases made with earlier | ⟨-, -, -, there⟩
        · have past := (run.ledger.past _ earlier).2 (by rw [rank, seeking]; rfl)
          exact absurd on (Nat.ne_of_gt past)
        · exact absurd ((run.step h).wired.mpr (.inr down)) there

/-! ## The closing frame that becomes due -/

/-- A closing frame becomes due when the attempt is left. -/
theorem farewell?_eq_some (farewell : s.farewell? i = some f) :
    ∃ outcome, s.stage = .ending outcome ∧ i = .proceed ∧ s.closing? outcome = some f := by
  unfold farewell? at farewell
  split at farewell
  · rename_i outcome stage
    exact ⟨outcome, stage, rfl, farewell⟩
  · cases farewell

theorem closing_due (due : f ∈ s.due i) (closing : f.text? = none) :
    ∃ outcome, s.stage = .ending outcome ∧ i = .proceed ∧ s.closing? outcome = some f := by
  rcases List.mem_append.mp due with reply | farewell
  · obtain ⟨key, -, rfl⟩ := Option.map_eq_some_iff.mp (Option.mem_toList.mp reply)
    cases closing
  · exact farewell?_eq_some (Option.mem_toList.mp farewell)

/-- Before an attempt is left no closing frame becomes due on it. -/
theorem Run.open_before (run : Run config now past s) (stage : s.stage = .ending outcome) :
    ∀ f ∈ dues (during past s.epoch), f.text? ≠ none := by
  intro f mem closing
  obtain ⟨m, mem, due⟩ := List.mem_flatMap.mp mem
  obtain ⟨mem, on⟩ := mem_during.mp mem
  obtain ⟨outcome', stage', input, -⟩ := closing_due due closing
  obtain ⟨front, back, split⟩ := List.append_of_mem mem
  have parted := run.parted split ⟨stage', input⟩
  rcases parted.stage on.symm with parting | down
  · rw [stage] at parting
    exact parting.elim
  · rw [stage] at down
    cases down

/-- **The closing frame comes last of all that becomes due on an attempt.** -/
theorem Run.dues_of_left (run : Run config now ms s) (split : ms = past ++ m :: rest)
    (leaves : m.Leaves outcome) : dues (during ms m.before.epoch) =
      dues (during past m.before.epoch) ++ (m.before.closing? outcome).toList := by
  have after : dues (during rest m.before.epoch) = [] := by
    apply List.flatMap_eq_nil_iff.mpr
    intro m' mem
    obtain ⟨mem, on⟩ := mem_during.mp mem
    obtain ⟨front, before, -⟩ := run.after split mem
    exact (before.parted rfl leaves).due on
  have here : m.before.due m.input = (m.before.closing? outcome).toList := by
    rw [leaves.input, due_of_ending leaves.stage]
  have rest : dues (m :: during rest m.before.epoch) =
      m.before.due m.input ++ dues (during rest m.before.epoch) := rfl
  rw [split, during_split rfl, dues_append, rest, here, after, List.append_nil]

/-- A closing frame is due on an attempt that was left exactly if it goes with the result. -/
theorem Run.closing_iff (run : Run config now ms s) (split : ms = past ++ m :: rest)
    (leaves : m.Leaves outcome) (closing : f.text? = none) :
    f ∈ dues (during ms m.before.epoch) ↔ m.before.closing? outcome = some f := by
  rw [run.dues_of_left split leaves, List.mem_append, Option.mem_toList]
  constructor
  · intro due
    refine due.resolve_left fun before => ?_
    exact (run.moment split).1.open_before leaves.stage f before closing
  · exact .inr

/-! ## The closing frame that is written -/

/-- **All that is written of the session's own** is the first of what becomes due. -/
theorem Run.own_written_prefix (run : Run config now ms s) (epoch : Nat) :
    own (written (during ms epoch)) <+: dues (during ms epoch) :=
  ((run.written_prefix epoch).filter _).trans (run.handed_prefix epoch)

theorem mem_own_of_closing {frames : List Outbound} (closing : f.text? = none) :
    f ∈ own frames ↔ f ∈ frames := by
  refine List.mem_filter.trans (and_iff_left (decide_eq_true fun ping => ?_))
  rw [ping] at closing
  cases closing

/-- **Once a closing frame is written, all that became due was.** -/
theorem Run.own_written_of_closing (run : Run config now ms s)
    (mem : f ∈ written (during ms epoch)) (closing : f.text? = none) :
    own (written (during ms epoch)) = dues (during ms epoch) ∧
      ∃ past m rest outcome, ms = past ++ m :: rest ∧ m.before.epoch = epoch ∧
        m.Leaves outcome ∧ m.before.closing? outcome = some f := by
  have first := run.own_written_prefix epoch
  have own_mem := (mem_own_of_closing closing).mpr mem
  obtain ⟨m, among, due⟩ := List.mem_flatMap.mp (first.subset own_mem)
  obtain ⟨among, on⟩ := mem_during.mp among
  obtain ⟨outcome, stage, input, goes⟩ := closing_due due closing
  obtain ⟨past, rest, split⟩ := List.append_of_mem among
  have leaves : m.Leaves outcome := ⟨stage, input⟩
  have last := run.dues_of_left split leaves
  rw [on, goes, Option.toList_some] at last
  refine ⟨?_, past, m, rest, outcome, split, on, leaves, goes⟩
  rw [last] at first ⊢
  rcases List.prefix_concat_iff.mp first with all | before
  · exact all
  · refine absurd closing ((run.moment split).1.open_before stage f ?_)
    exact on ▸ before.subset own_mem

/-- A closing frame is being written, or the writer is gone. -/
def Line.Closed (l : Line) : Prop := ∀ c, l.connection = some c →
  c.writerGone = true ∨ ∃ f, c.writing = some f ∧ f.text? = none

/-- A step writes one frame at most, which it takes from the connection. -/
theorem Flow.writes (flow : Flow s i l effects) : effects.filterMap Effect.frame? = [] ∨
    ∃ f c c', effects.filterMap Effect.frame? = [f] ∧ s.connection = some c ∧ c.Taken f c' ∧
      l = ⟨s.stage, some c'⟩ := by
  cases frames : effects.filterMap Effect.frame? with
  | nil => exact .inl rfl
  | cons f more =>
    have mem : f ∈ effects.filterMap Effect.frame? := frames ▸ List.mem_cons_self
    obtain ⟨e, effect, told⟩ := List.mem_filterMap.mp mem
    cases e <;> cases told
    obtain ⟨c, c', there, taken, -, alone, line⟩ := flow.of_write effect
    rw [alone] at frames
    cases frames
    exact .inr ⟨f, c, c', rfl, there, taken, line⟩

/-- **Behind a closing frame nothing is written.** -/
theorem Flow.closed (flow : Flow s i l effects) (h : s.line.Closed)
    (sought : s.stage.phase ≠ .seeking) :
    effects.filterMap Effect.frame? = [] ∧ l.Closed := by
  constructor
  · refine flow.writes.resolve_right ?_
    rintro ⟨f, c, c', -, there, taken, -⟩
    rcases h c there with gone | ⟨g, writing, -⟩
    · cases taken.was.symm.trans gone
    · cases taken.idle.symm.trans writing
  · intro c' there'
    rcases flow.turns there' with ⟨c, there, turns⟩ | ⟨seeking, -⟩
    · have closed := h c there
      cases turns with
      | touch => exact closed
      | handed handed =>
        rcases closed with gone | writing
        · cases handed.was.symm.trans gone
        · exact .inr (handed.writing ▸ writing)
      | taken taken =>
        rcases closed with gone | ⟨g, writing, -⟩
        · cases taken.was.symm.trans gone
        · cases taken.idle.symm.trans writing
      | exhausted => exact .inl rfl
      | wrote wrote =>
        cases wrote with
        | written text =>
          rcases closed with gone | ⟨g, writing, closing⟩
          · exact .inl gone
          · cases text.symm.trans writing
            cases closing
        | failed | closed => exact .inl rfl
      | giveUp gone => exact .inl gone
    · exact absurd seeking sought

/-- **What was written so far**: each frame with another one behind it is a text. -/
structure Concluded (epoch : Nat) (past : List Moment) (s : Session) : Prop where
  texts : (written past).Pairwise fun f _ => f.text? ≠ none
  closed : ∀ f ∈ written past, f.text? = none →
    s.line.Closed ∧ (s.epoch = epoch → s.stage.phase ≠ .seeking)

theorem Concluded.step (h : Concluded epoch past s) (on : s.epoch = epoch)
    (wired : s.line.Wired) (step : s.step? i = some (s', effects)) :
    Concluded epoch (past ++ [⟨s, i, s', effects⟩]) s' := by
  have flow := step?_flow step
  have written : written (past ++ [⟨s, i, s', effects⟩]) =
      written past ++ effects.filterMap Effect.frame? := by
    rw [written_append, written_singleton]
  rcases flow.writes with silent | ⟨f, c, c', one, there, taken, line⟩
  · rw [silent, List.append_nil] at written
    refine ⟨written ▸ h.texts, ?_⟩
    intro f mem closing
    obtain ⟨closed, sought⟩ := h.closed f (written ▸ mem) closing
    exact ⟨(flow.closed closed (sought on)).2,
      fun on' => step?_sought step (on'.trans on.symm) (sought on)⟩
  · -- what was written before is text, or nothing would be written any more
    have texts : ∀ g ∈ Session.written past, g.text? ≠ none := by
      intro g mem closing
      obtain ⟨closed, sought⟩ := h.closed g mem closing
      cases one.symm.trans (flow.closed closed (sought on)).1
    rw [one] at written
    refine ⟨?_, ?_⟩
    · rw [written]
      refine List.pairwise_append.mpr ⟨h.texts, List.pairwise_singleton _ _, ?_⟩
      intro g mem _ _
      exact texts g mem
    · rw [written]
      refine forall_mem_concat (fun g mem closing => absurd closing (texts g mem)) ?_
      intro closing
      refine ⟨fun c₀ there₀ => .inr ⟨f, ?_, closing⟩, fun _ seeking => ?_⟩
      · rw [line] at there₀
        cases there₀
        exact taken.writing
      · have stage : s'.stage = s.stage := congrArg Line.stage line
        rw [stage] at seeking
        cases there.symm.trans (wired.mpr (.inl seeking))

/-- **A frame that closes a connection is the last one that is written to it.** -/
theorem Run.concluded (run : Run config now ms s) (epoch : Nat) :
    (written (during ms epoch)).Pairwise fun f _ => f.text? ≠ none := by
  obtain ⟨last, concluded, -⟩ := run.attempt_induction epoch (P := Concluded epoch)
    (fun s _ => ⟨.nil, List.forall_mem_nil _⟩) fun run on step h => h.step on run.wired step
  exact concluded.texts

/-! ## The theorem -/

/-- **Which frame closes a connection**, given the result of its attempt and whether the session was
cancelled: it says that the protocol was broken, or else that the session was stopped. -/
inductive Dismisses (cancelled : Bool) : Outcome → Outbound → Prop where
  | broken {detail} : Dismisses cancelled (some (.violation detail)) (.close .protocolError detail)
  | stopped {result : Outcome} (unbroken : ∀ detail, result ≠ some (.violation detail))
      (stop : cancelled = true) :
      Dismisses cancelled result (.close .normal "session stopped")

theorem closing?_eq_some_iff :
    s.closing? outcome = some f ↔ Dismisses s.cancelled outcome f := by
  constructor
  · intro closing
    unfold closing? at closing
    split at closing
    · cases closing
      exact .broken
    · rename_i unbroken
      split at closing
      · rename_i stop
        cases closing
        exact .stopped unbroken stop
      · cases closing
  · intro dismisses
    cases dismisses with
    | broken => rfl
    | stopped unbroken stop =>
      unfold closing?
      split
      · rename_i detail
        exact absurd rfl (unbroken detail)
      · rw [if_pos stop]

section Opened

variable (run : Run config now ms s) (opened : (n, epoch) ∈ openings ms)

include run opened

/-- No text is written to a connection before its handshake. -/
theorem Run.greeted_of_text_to {text : String} (split : ms = past ++ m :: rest)
    (mem : .write n (.text text) ∈ m.effects) :
    m.before.epoch = epoch ∧ ∃ id, Greeted past epoch id := by
  obtain ⟨before, step⟩ := run.moment split
  have here : (n, m.before.epoch) ∈ openings ms := by
    rw [split, openings_append]
    exact List.mem_append_left _ (before.opened_of_write step mem)
  have on : m.before.epoch = epoch :=
    congrArg Prod.snd (opening_eq run.ledger.ascending here opened (.inl rfl))
  exact ⟨on, on ▸ before.greeted_of_text step mem⟩

/-- Behind the replies to all requests a connection is closed, for the result of its attempt. -/
theorem Run.dismissed (mem : f ∈ writtenTo ms n) (closing : f.text? = none) :
    replies (writtenTo ms n) = ((requests (during ms epoch)).map fun key => replyText key true) ∧
      ∃ m ∈ during ms epoch, ∃ outcome, m.Leaves outcome := by
  rw [run.writtenTo_eq opened] at mem ⊢
  obtain ⟨all, past, m, rest, outcome, split, on, leaves, -⟩ :=
    run.own_written_of_closing mem closing
  refine ⟨?_, m, ?_, outcome, leaves⟩
  · rw [replies_eq, all, texts_of_dues]
  · rw [split]
    exact mem_during.mpr ⟨List.mem_append_right _ List.mem_cons_self, on⟩

/-- **The result of an attempt tells how its connection is closed**, and as long as no text is lost
it is. -/
theorem Run.dismisses (mem : m ∈ during ms epoch) (leaves : m.Leaves outcome)
    (closing : f.text? = none) :
    (f ∈ writtenTo ms n → Dismisses m.before.cancelled outcome f) ∧
      ((∀ m ∈ during ms epoch, ¬m.Loses) → s.Over epoch →
        Dismisses m.before.cancelled outcome f → f ∈ writtenTo ms n) := by
  obtain ⟨mem, on⟩ := mem_during.mp mem
  obtain ⟨past, rest, split⟩ := List.append_of_mem mem
  have due := run.closing_iff split leaves closing
  rw [on, closing?_eq_some_iff] at due
  rw [run.writtenTo_eq opened, ← mem_own_of_closing closing, ← due]
  refine ⟨fun written => (run.own_written_prefix epoch).subset written, ?_⟩
  intro kept ended due
  rwa [run.written_of_over ended kept]

/-- What is handed over on an attempt is handed over to its connection. -/
theorem Run.handed_to (mem : m ∈ during ms epoch) (handed : f ∈ m.handed) :
    Hands m.before m.input f ∧ ∃ c, m.before.connection = some c ∧ c.number = n := by
  obtain ⟨mem, on⟩ := mem_during.mp mem
  obtain ⟨past, rest, split, before, step⟩ := run.of_mem mem
  obtain ⟨hands, c, there⟩ := run.hands_of_handed mem handed
  refine ⟨hands, c, there, ?_⟩
  have here : (c.number, m.before.epoch) ∈ openings ms := by
    rw [split, openings_append]
    exact List.mem_append_left _ (before.ledger.current c there).2
  exact congrArg Prod.fst (opening_eq run.ledger.ascending here opened (.inr on))

end Opened

/-- **A connection is closed once, as the result of its attempt asks for.** To each connection texts
are written only after its handshake, and one closing frame at most, behind which nothing is written
and before which the replies to all requests of the attempt were. A connection whose attempt is over
was left with a result. Only a breach of the protocol, or a cancelled session, has it closed; and as
long as no text is lost, it always is: the frame says that the protocol was broken if that was the
result, and that the session was stopped if it was cancelled by then with any other result. Once
there is a result, the turns of the session and its connection alone bring the attempt to its end.

What is written to a connection is the first of what was handed over on its own attempt: pings,
replies that were due, and the closing frame. The session connects only where there is no connection
any more: the writers of all those before have come to their end, and nothing is written to these
from then on. -/
theorem connection_is_closed_once (run : Run config now ms s) :
    (∀ n epoch, (n, epoch) ∈ openings ms →
      (∀ past m rest text, ms = past ++ m :: rest → .write n (.text text) ∈ m.effects →
        m.before.epoch = epoch ∧ ∃ id, Greeted past epoch id) ∧
      (writtenTo ms n).Pairwise (fun f _ => f.text? ≠ none) ∧
      (∀ f ∈ writtenTo ms n, f.text? = none →
        replies (writtenTo ms n) =
          ((requests (during ms epoch)).map fun key => replyText key true) ∧
        ∃ m ∈ during ms epoch, ∃ outcome, m.Leaves outcome) ∧
      (s.Over epoch → ∃ m ∈ during ms epoch, ∃ outcome, m.Leaves outcome) ∧
      (∀ m ∈ during ms epoch, ∀ outcome, m.Leaves outcome → ∀ f : Outbound, f.text? = none →
        (f ∈ writtenTo ms n → Dismisses m.before.cancelled outcome f) ∧
        ((∀ m ∈ during ms epoch, ¬m.Loses) → s.Over epoch →
          Dismisses m.before.cancelled outcome f → f ∈ writtenTo ms n)) ∧
      (∀ m ∈ during ms epoch, ∀ outcome, m.after.stage = .ending outcome →
        Closable config now ms epoch) ∧
      writtenTo ms n <+: handed (during ms epoch) ∧
      ∀ m ∈ during ms epoch, ∀ f ∈ m.handed,
        Hands m.before m.input f ∧ ∃ c, m.before.connection = some c ∧ c.number = n) ∧
    (openings ms).Pairwise (fun a b => a.1 < b.1 ∧ a.2 < b.2) ∧
    (∀ m ∈ ms, ∀ n f, .write n f ∈ m.effects → (n, m.before.epoch) ∈ openings ms) ∧
    ∀ past m rest url, ms = past ++ m :: rest → .connect url ∈ m.effects →
      m.before.connection = none ∧ ∀ o ∈ openings past, Finished past o.1 ∧
        ∀ m' ∈ m :: rest, ∀ f, .write o.1 f ∉ m'.effects := by
  refine ⟨?_, run.ledger.ascending, ?_, fun past m rest url => run.connect_alone⟩
  · intro n epoch opened
    refine ⟨fun past m rest text => run.greeted_of_text_to opened, ?_,
      fun f => run.dismissed opened, ?_, ?_, ?_, ?_, fun m mem f => run.handed_to opened mem⟩
    · rw [run.writtenTo_eq opened]
      exact run.concluded epoch
    · intro ended
      obtain ⟨past, m, rest, outcome, rfl, on, leaves⟩ := run.left opened (.of_over ended)
      exact ⟨m, by rw [during_split on]; simp, outcome, leaves⟩
    · intro m mem outcome leaves f closing
      exact run.dismisses opened mem leaves closing
    · intro m mem outcome stage
      obtain ⟨mem, on⟩ := mem_during.mp mem
      obtain ⟨past, rest, split⟩ := List.append_of_mem mem
      have late : 5 ≤ m.after.rank := by rw [rank, stage]; exact Nat.le_refl 5
      exact on ▸ run.closable split late
    · rw [run.writtenTo_eq opened]
      exact run.written_prefix epoch
  · intro m mem n f sent
    obtain ⟨past, rest, rfl, before, step⟩ := run.of_mem mem
    rw [openings_append]
    exact List.mem_append_left _ (before.opened_of_write step sent)

/-- A session that is cancelled while a reply waits to be written. -/
def leaving (key : String) : List Input :=
  joining "one" {} ++ [.received (.text (bareRequestText key)), .cancel, .proceed]

/-- The reply is written before the connection is closed because the session was cancelled. -/
theorem stopped_session_says_goodbye : ∃ ms s, Run sampleConfig 0 ms s ∧ (1, 1) ∈ openings ms ∧
    s.Over 1 ∧ (∀ m ∈ during ms 1, ¬m.Loses) ∧ .close .normal "session stopped" ∈ writtenTo ms 1 ∧
      replies (writtenTo ms 1) = [replyText "k" true] := by
  let inputs := leaving "k" ++ .proceed :: [.write, .wrote true, .write, .wrote true, .proceed]
  have ended : (replay? sampleConfig 0 inputs).map (fun run =>
      (openings run.1, requests (during run.1 1), run.2.epoch, run.2.stage)) =
        some ([(1, 1)], ["k"], 1, .stopped) := by decide +kernel
  have told : (replay? sampleConfig 0 (leaving "k")).map (fun run =>
      (run.2.stage, run.2.cancelled, run.2.epoch)) = some (.ending none, true, 1) := by
    decide +kernel
  obtain ⟨⟨ms, s⟩, replayed, ended⟩ := Option.map_eq_some_iff.mp ended
  obtain ⟨past, m, rest, split, before, input⟩ := split_of_replay? replayed
  rw [before, Option.map_some, Option.some.injEq, Prod.mk.injEq, Prod.mk.injEq] at told
  obtain ⟨result, cancelled, epoch⟩ := told
  simp only [Prod.mk.injEq] at ended split
  obtain ⟨opened, asked, current, stage⟩ := ended
  have opened : (1, 1) ∈ openings ms := by rw [opened]; exact List.mem_singleton.mpr rfl
  have finished : s.Over 1 := .inr ⟨current.symm, by rw [stage]; rfl⟩
  have kept : ∀ m ∈ during ms 1, ¬m.Loses := by
    rintro m mem ⟨lost, -⟩
    have among := List.mem_map_of_mem (f := (·.input)) (mem_during.mp mem).1
    rw [inputs_of_replay? replayed, lost] at among
    simp [inputs, leaving, joining] at among
  have mem : m ∈ during ms 1 := by rw [split, during_split epoch]; simp
  have run := Run.of_replay? replayed
  obtain ⟨each, -⟩ := connection_is_closed_once run
  obtain ⟨-, -, behind, -, closes, -⟩ := each 1 1 opened
  have closed : .close .normal "session stopped" ∈ writtenTo ms 1 :=
    (closes m mem none ⟨result, input⟩ _ rfl).2 kept finished (.stopped (by simp) cancelled)
  refine ⟨ms, s, run, opened, finished, kept, closed, ?_⟩
  rw [(behind _ closed rfl).1, asked]
  rfl

end RemotePlayback.Session
