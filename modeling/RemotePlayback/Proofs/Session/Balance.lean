import RemotePlayback.Proofs.Session.Moves

/-! What a session writes as long as no text is lost.

Between the moment at which a frame becomes due and that at which it is written, it is on its way:
the local player is still dealing with the request, or the frame is in the queue or behind it. As
long as no text is lost, what was written and what is on its way together are what was due, in that
order. -/

namespace RemotePlayback.Session

open Playback Dealer

/-! ## Connections -/

namespace Connection

variable {c c' : Connection} {f : Outbound} {stage stage' : Stage}

/-- The frames that are written or still to be written. -/
def pending (c : Connection) : List Outbound := c.writing.toList ++ c.unwritten

/-- **A connection on which no text was lost**: the writer is gone only when the attempt is over and
nothing of the session's own is left, and a closing frame comes after all that is its own. -/
structure Orderly (c : Connection) (stage : Stage) : Prop where
  gone : c.writerGone = true → stage.IsParting ∧ own c.unwritten = []
  parting : ∀ f ∈ c.pending, f.text? = none → stage.IsParting
  last : (own c.pending).Pairwise fun f _ => f.text? ≠ none

theorem orderly_fresh (number : Nat) (stage : Stage) :
    ({ number } : Connection).Orderly stage := by
  refine ⟨nofun, ?_, .nil⟩
  intro f mem
  cases mem

/-- What matters stays as it is when the session goes on to another stage. -/
theorem Orderly.move (h : c.Orderly stage) (stays : stage.IsParting → stage'.IsParting) :
    c.Orderly stage' where
  gone gone := (h.gone gone).imp_left stays
  parting f mem closing := stays (h.parting f mem closing)
  last := h.last

/-- Neither the keep-alive's turns nor a cancellation touch what is to be written. -/
theorem Orderly.touch (h : c.Orderly stage) (keepalive : Keepalive) (cancelled : Bool) :
    { c with keepalive, cancelled }.Orderly stage :=
  ⟨h.gone, h.parting, h.last⟩

/-- Nothing of the session's own is left behind a closing frame that is being written. -/
theorem Orderly.closing (h : c.Orderly stage) (writing : c.writing = some f)
    (closing : f.text? = none) : stage.IsParting ∧ own c.unwritten = [] := by
  have pending : c.pending = [f] ++ c.unwritten := by rw [Connection.pending, writing]; rfl
  have last := h.last
  rw [pending, own_append, own_of_closing closing] at last
  refine ⟨h.parting f (by simp [pending]) closing, List.eq_nil_iff_forall_not_mem.mpr ?_⟩
  exact fun g mem => (List.pairwise_cons.mp last).1 g mem closing

theorem Submitted.pending (handed : c.Submitted f c') : c'.pending = c.pending ++ [f] := by
  rw [Connection.pending, Connection.pending, handed.writing, handed.unwritten, List.append_assoc]

/-- A frame of the session's own is handed over before the attempt parts. -/
theorem Orderly.submitted (h : c.Orderly stage) (handed : c.Submitted f c')
    (before : ¬stage.IsParting) (after : f.text? = none → stage'.IsParting) :
    c'.Orderly stage' := by
  have texts : ∀ g ∈ c.pending, g.text? ≠ none := fun g mem closing =>
    before (h.parting g mem closing)
  refine ⟨?_, ?_, ?_⟩
  · intro gone
    cases handed.gone.symm.trans gone
  · rw [handed.pending]
    exact forall_mem_concat (fun g mem closing => absurd closing (texts g mem)) after
  · rw [handed.pending, own_append]
    have one : (own [f]).Pairwise fun f _ => f.text? ≠ none :=
      (List.pairwise_singleton _ f).sublist List.filter_sublist
    refine List.pairwise_append.mpr ⟨h.last, one, ?_⟩
    intro g mem _ _
    exact texts g (List.mem_filter.mp mem).1

/-- A ping changes nothing. -/
theorem Orderly.pinged (h : c.Orderly stage) (handed : c.Submitted (.text pingText) c') :
    c'.Orderly stage := by
  refine ⟨?_, ?_, ?_⟩
  · intro gone
    cases handed.gone.symm.trans gone
  · rw [handed.pending]
    exact forall_mem_concat h.parting nofun
  · rw [handed.pending, own_append, own_ping, List.append_nil]
    exact h.last

/-- The frame that is taken is pending still. -/
theorem Taken.pending (taken : c.Taken f c') : c'.pending = c.pending := by
  rw [Connection.pending, Connection.pending, taken.writing, taken.idle, taken.unwritten]
  rfl

theorem endWriter_pending_sublist (c : Connection) : c.endWriter.pending.Sublist c.pending :=
  (List.nil_sublist _).append (endWriter_sublist c)

/-- Whatever comes of a write, nothing is pending after it that was not before. -/
theorem Wrote.pending_sublist {ok : Bool} (wrote : c.Wrote ok c') :
    c'.pending.Sublist c.pending := by
  cases wrote with
  | written => exact List.sublist_append_right _ _
  | failed | closed => exact c.endWriter_pending_sublist

theorem Orderly.taken (h : c.Orderly stage) (taken : c.Taken f c') : c'.Orderly stage := by
  refine ⟨?_, ?_, ?_⟩
  · intro gone
    cases taken.gone.symm.trans gone
  · exact taken.pending ▸ h.parting
  · exact taken.pending ▸ h.last

/-- Once nothing of the session's own is left to write, the writer may go. -/
theorem Orderly.endWriter (h : stage.IsParting ∧ own c.unwritten = []) :
    c.endWriter.Orderly stage := by
  have empty := own_eq_nil_of_sublist (endWriter_sublist c) h.2
  refine ⟨fun _ => ⟨h.1, empty⟩, fun _ _ _ => h.1, ?_⟩
  show (own c.endWriter.unwritten).Pairwise _
  rw [empty]
  exact .nil

theorem Orderly.wrote {ok : Bool} (h : c.Orderly stage) (wrote : c.Wrote ok c')
    (kept : ok = false → ∀ text, c.writing ≠ some (.text text)) : c'.Orderly stage := by
  cases wrote with
  | written writing =>
    refine ⟨h.gone, fun f mem => h.parting f (List.mem_append_right _ mem), ?_⟩
    exact h.last.sublist ((List.sublist_append_right _ _).filter _)
  | failed writing => exact absurd writing (kept rfl _)
  | closed writing => exact .endWriter (h.closing writing rfl)

theorem Orderly.beat (h : c.Orderly stage) (beat : c.Beat c') : c'.Orderly stage := by
  cases beat with
  | rest => exact h.touch _ c.cancelled
  | @ping c' keepalive handed => exact (h.pinged handed).touch keepalive c'.cancelled
  | giveUp gone =>
    obtain ⟨parting, empty⟩ := h.gone gone
    have fewer : c.giveUp.pending.Sublist c.pending :=
      (List.Sublist.refl _).append (giveUp_sublist c)
    refine ⟨fun _ => ⟨parting, ?_⟩, fun _ _ _ => parting, ?_⟩
    · exact own_eq_nil_of_sublist (giveUp_sublist c) empty
    · exact h.last.sublist (fewer.filter _)

end Connection

/-! ## Where frames wait -/

/-- Frames wait behind the queue only while it is full, unless there is nobody to write them. -/
def Line.Packed (l : Line) : Prop :=
  ∀ c, l.connection = some c → c.writerGone = false → c.Packed

theorem Flow.packed {s : Session} {i : Input} {l : Line} {effects : List Effect}
    (flow : Flow s i l effects) (h : s.line.Packed) : l.Packed := by
  intro c' there' open_
  rcases flow.turns there' with ⟨c, there, turns⟩ | ⟨-, -, number, rfl⟩
  · cases turns with
    | touch =>
      have packed := h c there open_
      exact packed
    | handed handed => exact handed.packed (h c there handed.was)
    | taken taken => exact taken.packed (h c there taken.was)
    | exhausted => cases open_
    | wrote wrote =>
      cases wrote with
      | written =>
        have packed := h c there open_
        exact packed
      | failed | closed => cases open_
    | giveUp gone => cases gone.symm.trans open_
  · exact fun waits => absurd rfl waits

/-! ## One step -/

/-- No text was lost on the connection. -/
def Line.Orderly (l : Line) : Prop := ∀ c, l.connection = some c → c.Orderly l.stage

section Step

variable {s : Session} {i : Input} {l : Line} {effects : List Effect} {stage : Stage}

theorem orderly_keep (h : s.line.Orderly) (before : ¬s.stage.IsParting) :
    Line.Orderly ⟨stage, s.connection⟩ :=
  fun c there => (h c there).move fun parting => absurd parting before

/-- **The connection stays orderly** in each step that loses no text. -/
theorem Flow.orderly (flow : Flow s i l effects) (wired : s.line.Wired) (packed : s.line.Packed)
    (h : s.line.Orderly) (kept : ¬s.Loses i) : l.Orderly := by
  cases flow with
  | stay | pass => exact h
  | idle before =>
    intro c there
    cases there.symm.trans (wired.mpr before)
  | connect =>
    rintro c ⟨⟩
    exact Connection.orderly_fresh _ _
  | greet before =>
    intro c' there
    obtain ⟨c, here, rfl⟩ := Option.map_eq_some_iff.mp there
    refine ((h c here).move fun parting => ?_).touch _ c.cancelled
    rw [show s.line.stage = .greeting from before] at parting
    exact parting.elim
  | refuse before | instruct before | takeOver before | stuck before | intrude before =>
    exact orderly_keep h (by rw [before]; nofun)
  | turn before => exact orderly_keep h (free_of_up before).not_parting
  | unreplied due => exact orderly_keep h (not_parting_of_replyDue due)
  | fall before => exact orderly_keep h (free_of_canFall before).not_parting
  | reply due there handed =>
    rintro c' ⟨⟩
    exact (h _ there).submitted handed (not_parting_of_replyDue due) nofun
  | @farewell outcome c c' stage frame cancelled before closing there handed after =>
    rintro c' ⟨⟩
    have open_ : ¬s.line.stage.IsParting := by rw [show s.line.stage = _ from before]; nofun
    have parting : stage.IsParting := by rcases after with rfl | rfl <;> trivial
    exact ((h _ there).submitted handed open_ fun _ => parting).touch _ cancelled
  | part before there =>
    rintro c' ⟨⟩
    refine ((h _ there).move fun _ => ?_).touch _ true
    trivial
  | letGo before there =>
    rintro c' ⟨⟩
    refine ((h _ there).move fun _ => ?_).touch _ true
    trivial
  | finish | attempt =>
    intro c there
    cases there
  | write there taken =>
    rintro c' ⟨⟩
    exact (h _ there).taken taken
  | exhaust before there empty open_ =>
    rintro c' ⟨⟩
    have nothing := (packed _ there open_).unwritten_of_empty empty
    refine .endWriter ⟨?_, ?_⟩
    · rw [before]
      trivial
    · rw [nothing, own_nil]
  | wrote there wrote =>
    rintro c' ⟨⟩
    refine (h _ there).wrote wrote fun failed text writing => kept ⟨?_, _, _, there, writing⟩
    rw [failed]
  | beat there _ beat =>
    rintro c' ⟨⟩
    exact (h _ there).beat beat
  | @silence c there =>
    rintro c' ⟨⟩
    exact (h _ there).touch .gone c.cancelled

theorem unsent_of_away (wired : l.Wired) (away : l.stage.IsAway) : l.unsent = [] := by
  rw [Line.unsent, Line.unwritten, wired.mpr away, (free_of_away away).owed, own_nil,
    List.append_nil]

/-- Where the writer goes without a text being lost, nothing of the session's own is left. -/
theorem own_unwritten_of_ends (packed : s.line.Packed) (h : s.line.Orderly) (kept : ¬s.Loses i)
    (ends : ∀ c, s.connection = some c → c.Ends i) : own s.line.unwritten = [] := by
  cases there : s.connection with
  | none =>
    rw [Line.unwritten, show s.line.connection = none from there]
    rfl
  | some c =>
    rw [unwritten_of_there there]
    cases ends c there with
    | gone gone => exact ((h c there).gone gone).2
    | exhausted empty open_ =>
      rw [(packed c there open_).unwritten_of_empty empty]
      rfl
    | closed writing closing => exact ((h c there).closing writing closing).2
    | failed writing input => exact absurd ⟨input, c, _, there, writing⟩ kept

/-- **The balance of a step** that loses no text: what it writes, and what is on its way after it,
are what was on its way and what becomes due. -/
theorem Flow.balance (flow : Flow s i l effects) (wired : s.line.Wired) (packed : s.line.Packed)
    (h : s.line.Orderly) (kept : ¬s.Loses i) :
    own (effects.filterMap Effect.frame?) ++ l.unsent = s.line.unsent ++ s.due i := by
  have owed : s.line.stage.owed = s.stage.owed := rfl
  rw [Line.unsent, Line.unsent, owed]
  cases flow.moves wired with
  | rest silent same owes =>
    rw [silent, same, owes, own_nil, List.nil_append, List.append_assoc]
  | forgo _ _ before shut =>
    -- the writer is gone only when the attempt is over
    obtain ⟨c, there⟩ := Option.ne_none_iff_exists'.mp fun none => before.1 (wired.mp none)
    exact absurd ((h c there).gone (shut c there)).1 before.2
  | drop silent fewer owes ends =>
    have nothing := own_unwritten_of_ends packed h kept ends
    rw [silent, own_eq_nil_of_sublist fewer nothing, nothing, owes]
    rfl
  | write there taken written first owes =>
    rw [written, first, owes, ← List.append_assoc, ← own_append, List.append_assoc]
    rfl
  | hand there open_ silent hands last owes =>
    rw [silent, last, own_append, List.append_assoc, owes, own_nil, List.nil_append,
      List.append_assoc]

end Step

end RemotePlayback.Session
