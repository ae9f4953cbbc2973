import RemotePlayback.Proofs.Dealer.Frame
import RemotePlayback.Proofs.Session.History
import RemotePlayback.Proofs.Session.Traffic

/-! What a session comes to owe to the far end, and how it settles that.

On an established connection the session owes a reply for each request that it reads, and at the end
of an attempt perhaps a closing frame. These become due, are handed over to the writer, and are
written; pings go the same way, and are left aside here. `Moves` says what a step does on that way:
to the frames that are to be written, and to the reply that waits for the local player. -/

namespace RemotePlayback.Session

open Playback Dealer

/-! ## Frames of the session's own -/

/-- The frames that are no pings. -/
def own (frames : List Outbound) : List Outbound := frames.filter (· ≠ .text pingText)

@[simp] theorem own_nil : own [] = [] := rfl

@[simp] theorem own_append (frames more : List Outbound) :
    own (frames ++ more) = own frames ++ own more := List.filter_append ..

@[simp] theorem own_ping : own [.text pingText] = [] := by simp [own]

@[simp] theorem own_reply (key : String) (success : Bool) :
    own [.text (replyText key success)] = [.text (replyText key success)] := by
  simp [own, replyText_ne_pingText]

theorem own_eq_nil_of_sublist {frames more : List Outbound} (fewer : frames.Sublist more)
    (empty : own more = []) : own frames = [] :=
  List.eq_nil_of_sublist_nil (empty ▸ fewer.filter _)

theorem own_of_closing {f : Outbound} (closing : f.text? = none) : own [f] = [f] := by
  cases f with
  | text => cases closing
  | close => rfl

theorem closing?_text? {s : Session} {outcome : Outcome} {f : Outbound}
    (h : s.closing? outcome = some f) : f.text? = none := by
  unfold closing? at h
  split at h
  · cases h
    rfl
  · split at h <;> cases h
    rfl

/-! ## What is due -/

/-- The frame that a step reads on an established connection. -/
def read? (s : Session) (i : Input) : Option String :=
  match s.stage, i with
  | .reading, .received (.text text) => some text
  | _, _ => none

/-- The key of the request that a step reads. -/
def asked? (s : Session) (i : Input) : Option String :=
  ((s.read? i).bind request?).map (·.1)

/-- The closing frame with which a step leaves its connection. -/
def farewell? (s : Session) (i : Input) : Option Outbound :=
  match s.stage, i with
  | .ending outcome, .proceed => s.closing? outcome
  | _, _ => none

/-- **What becomes due** with a step: the reply to a request, or the closing frame. -/
def due (s : Session) (i : Input) : List Outbound :=
  ((s.asked? i).map fun key => .text (replyText key true)).toList ++ (s.farewell? i).toList

/-- Whether a step loses the text that is being written. -/
def Loses (s : Session) (i : Input) : Prop :=
  i = .wrote false ∧ ∃ c text, s.connection = some c ∧ c.writing = some (.text text)

/-- The reply to the request that the local player deals with. -/
def Stage.owed : Stage → List Outbound
  | .delivering _ key => [.text (replyText key true)]
  | _ => []

namespace Line

/-- The frames that are still to be written. -/
def unwritten (l : Line) : List Outbound :=
  match l.connection with
  | some c => c.unwritten
  | none => []

/-- **What is on its way**: due, and not written yet. -/
def unsent (l : Line) : List Outbound := own l.unwritten ++ l.stage.owed

end Line

/-! ## Where there is a connection -/

/-- Whether there is no connection at this stage. -/
def Stage.IsAway (stage : Stage) : Prop := stage.phase = .seeking ∨ stage.phase = .down

/-- There is a connection exactly where there should be one. -/
def Line.Wired (l : Line) : Prop := l.connection = none ↔ l.stage.IsAway

section Wired

variable {s : Session} {i : Input} {l : Line} {effects : List Effect} {stage : Stage}

theorem not_away_of_up (h : stage.IsUp) : ¬stage.IsAway := by
  cases stage with
  | announcing | adopting | reading | replying => nofun
  | _ => exact h.elim

theorem not_away_of_canFall (h : stage.CanFall) : ¬stage.IsAway := by
  cases stage with
  | greeting | announcing | reading => nofun
  | _ => exact h.elim

theorem not_away_of_replyDue {key : String} (due : ReplyDue s i key) : ¬s.stage.IsAway := by
  cases due with
  | asked stage | told stage => rw [stage]; nofun

theorem wired_some {c : Connection} (after : ¬stage.IsAway) : Line.Wired ⟨stage, some c⟩ :=
  ⟨nofun, fun away => absurd away after⟩

theorem wired_keep (h : s.line.Wired) (before : ¬s.stage.IsAway) (after : ¬stage.IsAway) :
    Line.Wired ⟨stage, s.connection⟩ :=
  ⟨fun none => absurd (h.mp none) before, fun away => absurd away after⟩

theorem Flow.wired (flow : Flow s i l effects) (h : s.line.Wired) : l.Wired := by
  cases flow with
  | stay | pass => exact h
  | idle before same =>
    have away : Stage.IsAway _ := .imp same.trans same.trans before
    exact ⟨fun _ => away, fun _ => h.mpr before⟩
  | connect => exact wired_some nofun
  | greet before =>
    have there : s.connection ≠ none := fun none => by
      have away := h.mp none
      rw [show s.line.stage = .greeting from before] at away
      rcases away with away | away <;> cases away
    obtain ⟨c, there⟩ := Option.ne_none_iff_exists'.mp there
    rw [there]
    exact wired_some nofun
  | refuse before | instruct before | takeOver before | stuck before | intrude before =>
    exact wired_keep h (by rw [before]; nofun) nofun
  | turn before after => exact wired_keep h (not_away_of_up before) (not_away_of_up after)
  | unreplied due => exact wired_keep h (not_away_of_replyDue due) nofun
  | fall before => exact wired_keep h (not_away_of_canFall before) nofun
  | reply _ _ _ after | farewell _ _ _ _ _ after =>
    rcases after with rfl | rfl <;> exact wired_some nofun
  | part | letGo => exact wired_some nofun
  | finish _ after => exact ⟨fun _ => .inr after, fun _ => rfl⟩
  | attempt _ after => exact ⟨fun _ => .inl after, fun _ => rfl⟩
  | write there | exhaust _ there | wrote there | beat there | silence there =>
    apply wired_some
    intro away
    cases there.symm.trans (h.mpr away)

end Wired

/-! ## Where nothing is owed -/

/-- Whether the closing frame of an attempt is being handed over, or was. -/
def Stage.IsParting : Stage → Prop
  | .closing | .draining => True
  | _ => False

/-- Whether the session neither waits for the local player nor leaves its connection. -/
def Stage.IsFree : Stage → Prop
  | .delivering .. | .ending _ | .closing | .draining => False
  | _ => True

section Free

variable {stage : Stage}

theorem free_of_up (h : stage.IsUp) : stage.IsFree := by
  cases stage with
  | announcing | adopting | reading | replying => trivial
  | _ => exact h.elim

theorem free_of_canFall (h : stage.CanFall) : stage.IsFree := by
  cases stage with
  | greeting | announcing | reading => trivial
  | _ => exact h.elim

theorem free_of_away (h : stage.IsAway) : stage.IsFree := by
  cases stage with
  | delivering | ending | closing | draining => rcases h with h | h <;> cases h
  | _ => trivial

namespace Stage.IsFree

theorem not_parting (h : stage.IsFree) : ¬stage.IsParting := by
  cases stage with
  | closing | draining => exact h.elim
  | _ => exact id

theorem not_ending (h : stage.IsFree) (outcome : Outcome) : stage ≠ .ending outcome := by
  rintro rfl
  exact h

theorem owed (h : stage.IsFree) : stage.owed = [] := by
  cases stage with
  | delivering => exact h.elim
  | _ => rfl

end Stage.IsFree

end Free

/-! ## When nothing becomes due -/

section Due

variable {s : Session} {i : Input}

theorem due_of_request {text key : String} {event : Option Event} (stage : s.stage = .reading)
    (request : request? text = some (key, event)) :
    s.due (.received (.text text)) = [.text (replyText key true)] := by
  simp [due, asked?, read?, farewell?, stage, request]

theorem due_of_ending {outcome : Outcome} (stage : s.stage = .ending outcome) :
    s.due .proceed = (s.closing? outcome).toList := by
  simp [due, asked?, read?, farewell?, stage]

theorem asked?_of_unread (unread : i.text? = none) : s.asked? i = none := by
  have read : s.read? i = none := by
    unfold read?
    split
    · cases unread
    · rfl
  rw [asked?, read]
  rfl

theorem asked?_of_not_reading (other : s.stage ≠ .reading) : s.asked? i = none := by
  have read : s.read? i = none := by
    unfold read?
    split
    · rename_i stage
      exact absurd stage other
    · rfl
  rw [asked?, read]
  rfl

/-- The attempt is left only where it is to be left, when the session turns to it. -/
theorem farewell?_of_stays (stays : i ≠ .proceed ∨ ∀ outcome, s.stage ≠ .ending outcome) :
    s.farewell? i = none := by
  unfold farewell?
  split
  · rename_i outcome stage
    exact absurd stage (stays.resolve_left (fun other => other rfl) outcome)
  · rfl

theorem due_eq_nil (asked : s.asked? i = none) (farewell : s.farewell? i = none) :
    s.due i = [] := by
  rw [due, asked, farewell]
  rfl

/-- Nothing becomes due where nothing is read and the attempt is not left. -/
theorem due_of_unread (unread : i.text? = none)
    (stays : i ≠ .proceed ∨ ∀ outcome, s.stage ≠ .ending outcome) : s.due i = [] :=
  due_eq_nil (asked?_of_unread unread) (farewell?_of_stays stays)

/-- Nothing becomes due with a frame that is no request. -/
theorem due_of_text {text : String} (request : s.stage = .reading → request? text = none) :
    s.due (.received (.text text)) = [] := by
  refine due_eq_nil ?_ (farewell?_of_stays (.inl nofun))
  unfold asked? read?
  split
  · rename_i text' stage eq
    cases eq
    rw [Option.bind_some, request stage, Option.map_none]
  · rfl

/-- Nothing becomes due when neither a frame is read nor the session has its turn. -/
theorem due_of_others (unread : i.text? = none) (others : ¬i.IsTurn) : s.due i = [] := by
  refine due_of_unread unread (.inl fun turn => others ?_)
  rw [turn]
  trivial

theorem not_parting_of_replyDue {key : String} (due : ReplyDue s i key) : ¬s.stage.IsParting := by
  cases due with
  | asked stage | told stage =>
    rw [stage]
    exact id

end Due

/-! ## Handing over -/

/-- **Why a frame is handed over**: as a ping of the keep-alive, as a reply that is due, or to close
the connection of an attempt that is over. -/
inductive Hands (s : Session) : Input → Outbound → Prop where
  | ping {c} (there : s.connection = some c) (started : c.keepalive ≠ .absent) :
      Hands s .ping (.text pingText)
  | reply {i key} (due : ReplyDue s i key) : Hands s i (.text (replyText key true))
  | close {outcome frame} (stage : s.stage = .ending outcome)
      (closing : s.closing? outcome = some frame) : Hands s .proceed frame

/-- **There is nobody to write**, now that the writer is gone. -/
def Line.Shut (l : Line) : Prop := ∀ c, l.connection = some c → c.writerGone = true

/-- **Why a writer goes, or a connection**: the writer has gone before, it has nothing to write, it
has written its last frame, or a write has failed. -/
inductive Connection.Ends (c : Connection) (i : Input) : Prop where
  | gone (gone : c.writerGone = true)
  | exhausted (empty : c.queue = []) (open_ : c.writerGone = false)
  | closed {f} (writing : c.writing = some f) (closing : f.text? = none)
  | failed {text} (writing : c.writing = some (.text text)) (input : i = .wrote false)

/-- **What a step does to the frames that are to be written**, and to what is owed: it leaves the
frames, but for a reply or a closing frame that nobody is there to write; it drops some when the
writer goes; it has the first of them written; or it adds one that is handed over. -/
inductive Moves (s : Session) (i : Input) (l : Line) (effects : List Effect) : Prop where
  | rest (silent : effects.filterMap Effect.frame? = []) (same : l.unwritten = s.line.unwritten)
      (owes : l.stage.owed = s.stage.owed ++ s.due i)
      (shut : s.line.Shut → s.stage.phase ≠ .seeking → l.Shut)
  | forgo (silent : effects.filterMap Effect.frame? = []) (same : l.unwritten = s.line.unwritten)
      (before : ¬s.stage.IsAway ∧ ¬s.stage.IsParting) (shut : s.line.Shut) (shut' : l.Shut)
  | drop (silent : effects.filterMap Effect.frame? = [])
      (fewer : l.unwritten.Sublist s.line.unwritten) (owes : l.stage.owed = s.stage.owed ++ s.due i)
      (ends : ∀ c, s.connection = some c → c.Ends i) (shut : l.Shut)
      (sought : l.stage.phase = .seeking → s.stage.phase = .down)
  | write {c c' f} (there : s.connection = some c) (taken : c.Taken f c')
      (written : effects.filterMap Effect.frame? = [f])
      (first : s.line.unwritten = f :: l.unwritten) (owes : l.stage.owed = s.stage.owed ++ s.due i)
  | hand {c f} (there : s.connection = some c) (open_ : c.writerGone = false)
      (silent : effects.filterMap Effect.frame? = []) (hands : Hands s i f)
      (last : l.unwritten = s.line.unwritten ++ [f])
      (owes : own [f] ++ l.stage.owed = s.stage.owed ++ s.due i)

section Moves

variable {s : Session} {i : Input} {l : Line} {effects : List Effect} {stage : Stage}
  {c c' : Connection} {f : Outbound}

theorem shut_none (stage : Stage) : Line.Shut ⟨stage, none⟩ := by
  intro c there
  cases there

theorem shut_some (gone : c.writerGone = true) : Line.Shut ⟨stage, some c⟩ := by
  intro c' there
  cases there
  exact gone

theorem unwritten_of_there (there : s.connection = some c) : s.line.unwritten = c.unwritten := by
  rw [Line.unwritten, show s.line.connection = some c from there]

/-- Where nothing becomes due, as much is owed as before. -/
theorem owes_of_nothing (nothing : s.due i = []) (same : stage.owed = s.stage.owed) :
    stage.owed = s.stage.owed ++ s.due i := by
  rw [nothing, List.append_nil, same]

/-- The connection stays as it is. -/
theorem moves_keep (silent : effects.filterMap Effect.frame? = [])
    (owes : stage.owed = s.stage.owed ++ s.due i) : Moves s i ⟨stage, s.connection⟩ effects :=
  .rest silent rfl owes fun shut _ => shut

/-- Of the connection neither the writer nor what it has to write is touched. -/
theorem moves_touch (there : s.connection = some c) (gone : c'.writerGone = c.writerGone)
    (same : c'.unwritten = c.unwritten) (owes : stage.owed = s.stage.owed ++ s.due i) :
    Moves s i ⟨stage, some c'⟩ [] := by
  refine .rest rfl ?_ owes fun shut _ => shut_some (gone.trans (shut c there))
  rw [unwritten_of_there there]
  exact same

/-- The writer goes. -/
theorem moves_drop (wired : s.line.Wired) (there : s.connection = some c) (ends : c.Ends i)
    (gone : c'.writerGone = true) (fewer : c'.unwritten.Sublist c.unwritten)
    (nothing : s.due i = []) : Moves s i ⟨s.stage, some c'⟩ [] := by
  refine .drop rfl ?_ (owes_of_nothing nothing rfl) ?_ (shut_some gone) ?_
  · rw [unwritten_of_there there]
    exact fewer
  · intro c₀ there₀
    cases there.symm.trans there₀
    exact ends
  · intro seeking
    cases there.symm.trans (wired.mpr (.inl seeking))

/-- A frame is handed over. -/
theorem moves_hand (there : s.connection = some c) (handed : c.Submitted f c')
    (hands : Hands s i f) (keepalive : Keepalive) (cancelled : Bool)
    (owes : own [f] ++ stage.owed = s.stage.owed ++ s.due i) :
    Moves s i ⟨stage, some { c' with keepalive, cancelled }⟩ [] := by
  refine .hand there handed.was rfl hands ?_ owes
  rw [unwritten_of_there there]
  exact handed.unwritten

/-- The session leaves its connection, and nothing is owed for a reply. -/
theorem owes_of_ending {outcome : Outcome} (before : s.stage = .ending outcome) :
    s.stage.owed ++ s.due .proceed = (s.closing? outcome).toList := by
  rw [due_of_ending before, before]
  rfl

/-- A reply that is due is owed already, or becomes due with the request. -/
theorem owes_of_reply {key : String} (due : ReplyDue s i key) :
    s.stage.owed ++ s.due i = [.text (replyText key true)] := by
  cases due with
  | asked stage request =>
    rw [due_of_request stage request, stage]
    rfl
  | told stage =>
    rw [due_of_unread (i := .delivered _) rfl (.inl fun turn => Input.noConfusion turn), stage]
    rfl

/-! ### Steps that leave the connection alone -/

/-- Nothing becomes due where the session goes on with what it is doing and owes nothing. -/
theorem moves_of_free (free : s.stage.IsFree) (unread : i.text? = none)
    (silent : effects.filterMap Effect.frame? = []) (nothing : stage.owed = []) :
    Moves s i ⟨stage, s.connection⟩ effects :=
  moves_keep silent (owes_of_nothing (due_of_unread unread (.inr free.not_ending))
    (nothing.trans free.owed.symm))

/-- Nothing becomes due with a frame that is no request, or before there can be one. -/
theorem moves_of_text {text : String} (request : s.stage = .reading → request? text = none)
    (silent : effects.filterMap Effect.frame? = []) (same : stage.owed = s.stage.owed) :
    Moves s (.received (.text text)) ⟨stage, s.connection⟩ effects :=
  moves_keep silent (owes_of_nothing (due_of_text request) same)

/-- With a request that the local player deals with, the reply is owed. -/
theorem moves_of_request {text key : String} {event : Event} (before : s.stage = .reading)
    (request : request? text = some (key, some event)) :
    Moves s (.received (.text text)) ⟨.delivering event key, s.connection⟩ [.deliver event] := by
  refine moves_keep rfl ?_
  rw [due_of_request before request, before]
  rfl

/-- It is owed still while the local player takes over. -/
theorem moves_of_takeOver {event play : Event} {key : String} {accepted : Bool}
    (before : s.stage = .delivering event key) :
    Moves s (.delivered accepted) ⟨.delivering play key, s.connection⟩ [.deliver play] := by
  refine moves_keep rfl (owes_of_nothing (due_of_unread rfl (.inl ?_)) (by rw [before]; rfl))
  intro turn
  cases turn

/-! ### The beginning and the end of a connection -/

/-- A new connection has nothing to write. -/
theorem moves_of_connect {number : Nat} (wired : s.line.Wired)
    (before : s.stage.phase = .seeking) (unread : i.text? = none) :
    Moves s i ⟨.greeting, some { number }⟩ [] := by
  have none : s.line.connection = none := wired.mpr (.inl before)
  have free := free_of_away (.inl before)
  refine .rest rfl ?_ ?_ fun _ sought => absurd before sought
  · rw [Line.unwritten, Line.unwritten, none]
    rfl
  · exact owes_of_nothing (due_of_unread unread (.inr free.not_ending)) free.owed.symm

/-- The keep-alive that starts with the handshake has nothing to do with what is to be written. -/
theorem moves_of_greet {text id : String} (before : s.stage = .greeting)
    (silent : effects.filterMap Effect.frame? = []) (clock interval : Nat) :
    Moves s (.received (.text text))
      ⟨.announcing id, s.connection.map (·.startKeepalive clock interval)⟩ effects := by
  refine .rest silent ?_ (owes_of_nothing (due_of_text fun stage => ?_) (by rw [before]; rfl)) ?_
  · rw [Line.unwritten, Line.unwritten, line]
    cases s.connection <;> rfl
  · cases before.symm.trans stage
  · intro shut _ c' there'
    obtain ⟨c, there, rfl⟩ := Option.map_eq_some_iff.mp there'
    exact shut c there

/-- At the end of an attempt there is no connection, or its writer is gone. -/
theorem moves_of_finish (wired : s.line.Wired) (before : s.stage.phase = .seeking ∨
      (s.stage.phase = .spent ∧ s.connection = none) ∨
      s.stage = .draining ∧ ∃ c, s.connection = some c ∧ c.writerGone = true)
    (after : stage.phase = .down) (unread : i.text? = none) : Moves s i ⟨stage, none⟩ [] := by
  have free := free_of_away (.inr after)
  have sought : stage.phase = .seeking → s.stage.phase = .down := fun seeking => by
    cases seeking.symm.trans after
  rcases before with seeking | ⟨spent, none⟩ | ⟨draining, c, there, gone⟩
  · have free' := free_of_away (.inl seeking)
    refine .drop rfl (List.nil_sublist _) (owes_of_nothing
      (due_of_unread unread (.inr free'.not_ending)) (free.owed.trans free'.owed.symm)) ?_
      (shut_none _) sought
    intro c there
    cases there.symm.trans (wired.mpr (.inl seeking))
  · rcases wired.mp none with away | away <;> cases away.symm.trans spent
  · refine .drop rfl (List.nil_sublist _) (owes_of_nothing ?_ ?_) ?_ (shut_none _) sought
    · refine due_of_unread unread (.inr fun outcome ending => ?_)
      cases draining.symm.trans ending
    · rw [free.owed, draining]
      rfl
    · intro c₀ there₀
      cases there.symm.trans there₀
      exact .gone gone

/-- The next attempt has no connection yet. -/
theorem moves_of_attempt (wired : s.line.Wired) (before : s.stage.phase = .down)
    (after : stage.phase = .seeking) (unread : i.text? = none)
    (silent : effects.filterMap Effect.frame? = []) : Moves s i ⟨stage, none⟩ effects := by
  have free := free_of_away (.inr before)
  have owes := owes_of_nothing (due_of_unread unread (.inr free.not_ending))
    ((free_of_away (.inl after)).owed.trans free.owed.symm)
  refine .drop silent (List.nil_sublist _) owes ?_ (shut_none _) fun _ => before
  intro c there
  cases there.symm.trans (wired.mpr (.inr before))

/-! ### Replies and closing frames -/

theorem moves_of_reply {key : String} (due : ReplyDue s i key) (there : s.connection = some c)
    (handed : c.Submitted (.text (replyText key true)) c')
    (after : stage = .reading ∨ stage = .replying) : Moves s i ⟨stage, some c'⟩ [] := by
  refine moves_hand there handed (.reply due) _ _ ?_
  rw [owes_of_reply due, own_reply]
  rcases after with rfl | rfl <;> rfl

theorem moves_of_farewell {outcome : Outcome} {frame : Outbound} (cancelled : Bool)
    (before : s.stage = .ending outcome) (closing : s.closing? outcome = some frame)
    (there : s.connection = some c) (handed : c.Submitted frame c')
    (after : stage = .closing ∨ stage = .draining) :
    Moves s .proceed ⟨stage, some { c' with cancelled }⟩ [] := by
  refine moves_hand there handed (.close before closing) _ cancelled ?_
  rw [owes_of_ending before, closing, own_of_closing (closing?_text? closing)]
  rcases after with rfl | rfl <;> rfl

/-- An attempt is left without a closing frame if there is none, or nobody to write it. -/
theorem moves_of_part {outcome : Outcome} (before : s.stage = .ending outcome)
    (there : s.connection = some c) (unsaid : s.closing? outcome = none ∨ c.writerGone = true) :
    Moves s .proceed ⟨.draining, some { c with cancelled := true }⟩ [] := by
  rcases unsaid with none | gone
  · refine moves_touch there rfl rfl ?_
    rw [owes_of_ending before, none]
    rfl
  · refine .forgo rfl ?_ ?_ ?_ (shut_some gone)
    · rw [unwritten_of_there there]
      rfl
    · rw [before]
      exact ⟨fun away => away.elim Phase.noConfusion Phase.noConfusion, id⟩
    · intro c₀ there₀
      cases there.symm.trans there₀
      exact gone

theorem moves_of_letGo (before : s.stage = .closing) (there : s.connection = some c) :
    Moves s .proceed ⟨.draining, some { c with cancelled := true }⟩ [] := by
  refine moves_touch there rfl rfl (owes_of_nothing ?_ (by rw [before]; rfl))
  refine due_of_unread rfl (.inr fun outcome ending => ?_)
  cases before.symm.trans ending

/-! ### The writer and the keep-alive -/

theorem moves_of_write (there : s.connection = some c) (taken : c.Taken f c') :
    Moves s .write ⟨s.stage, some c'⟩ [.write c'.number f] := by
  refine .write there taken rfl ?_ (owes_of_nothing (due_of_others rfl id) rfl)
  rw [unwritten_of_there there]
  exact taken.unwritten

theorem moves_of_wrote {ok : Bool} (wired : s.line.Wired) (there : s.connection = some c)
    (wrote : c.Wrote ok c') : Moves s (.wrote ok) ⟨s.stage, some c'⟩ [] := by
  have nothing : s.due (.wrote ok) = [] := due_of_others rfl id
  cases wrote with
  | written => exact moves_touch there rfl rfl (owes_of_nothing nothing rfl)
  | failed writing =>
    exact moves_drop wired there (.failed writing rfl) rfl c.endWriter_sublist nothing
  | closed writing =>
    exact moves_drop wired there (.closed writing rfl) rfl c.endWriter_sublist nothing

theorem moves_of_beat (wired : s.line.Wired) (there : s.connection = some c)
    (started : c.keepalive ≠ .absent) (beat : c.Beat c') :
    Moves s .ping ⟨s.stage, some c'⟩ [] := by
  have nothing : s.due .ping = [] := due_of_others rfl id
  cases beat with
  | rest => exact moves_touch there rfl rfl (owes_of_nothing nothing rfl)
  | ping handed =>
    refine moves_hand there handed (.ping there started) _ _ ?_
    rw [own_ping, nothing, List.nil_append, List.append_nil]
  | giveUp gone => exact moves_drop wired there (.gone gone) gone c.giveUp_sublist nothing

/-! ### All steps -/

/-- **Every step moves frames** in one of these ways. -/
theorem Flow.moves (flow : Flow s i l effects) (wired : s.line.Wired) : Moves s i l effects := by
  cases flow with
  | stay unread others mum =>
    exact moves_keep mum.frames (owes_of_nothing (due_of_others unread others) rfl)
  | idle before same unread mum =>
    have away : Stage.IsAway _ := .imp same.trans same.trans before
    exact moves_of_free (free_of_away before) unread mum.frames (free_of_away away).owed
  | turn before after unread mum =>
    exact moves_of_free (free_of_up before) unread mum.frames (free_of_up after).owed
  | fall before unread => exact moves_of_free (free_of_canFall before) unread rfl rfl
  | stuck before => exact moves_of_free (by rw [before]; trivial) rfl rfl rfl
  | pass _ request _ still => exact moves_of_text (fun _ => request) still.frames rfl
  | refuse before =>
    refine moves_of_text (fun stage => ?_) rfl (by rw [before]; rfl)
    cases before.symm.trans stage
  | intrude before handshake =>
    obtain ⟨uri, headers, read⟩ := handshake
    exact moves_of_text (fun _ => by rw [request?, read]) rfl (by rw [before]; rfl)
  | instruct before request => exact moves_of_request before request
  | takeOver before => exact moves_of_takeOver before
  | connect before => exact moves_of_connect wired before rfl
  | greet before => exact moves_of_greet before rfl _ _
  | finish before after unread => exact moves_of_finish wired before after unread
  | attempt before after mum => exact moves_of_attempt wired before after rfl mum.frames
  | reply due there handed after => exact moves_of_reply due there handed after
  | unreplied due gone =>
    exact .forgo rfl rfl ⟨not_away_of_replyDue due, not_parting_of_replyDue due⟩ gone gone
  | farewell cancelled before closing there handed after =>
    exact moves_of_farewell cancelled before closing there handed after
  | part before there unsaid => exact moves_of_part before there unsaid
  | letGo before there => exact moves_of_letGo before there
  | write there taken => exact moves_of_write there taken
  | @exhaust c _ there empty open_ =>
    exact moves_drop wired there (.exhausted empty open_) rfl c.endWriter_sublist
      (due_of_others rfl id)
  | wrote there wrote => exact moves_of_wrote wired there wrote
  | beat there started beat => exact moves_of_beat wired there started beat
  | silence there =>
    exact moves_touch there rfl rfl (owes_of_nothing (due_of_others rfl id) rfl)

end Moves

end RemotePlayback.Session
