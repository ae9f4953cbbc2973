import RemotePlayback.Proofs.Session.Queue
import RemotePlayback.Proofs.Session.Run

/-! What a step does to the connection of a session.

`Change` says what a step does to snapshots, links and reports. `Flow` tells the other side of it:
what is read from the connection, what is handed over to its writer and to the local player, and
what is written. It lists every step by the stage and the connection before and after it, with the
conditions under which it happens. As for `Change` there is one lemma for each function of the
session, and `step?_flow` puts them together. -/

namespace RemotePlayback.Session

open Playback Dealer

/-! ## Frames that are read -/

/-- **The request that a text makes**: its key, and what it asks of the local player. -/
def request? (text : String) : Option (String × Option Event) :=
  match Frame.read text with
  | .ok (.request key _ _ payload) => some (key, instruction? payload)
  | _ => none

/-- Whether a text is a handshake, with an id or without. -/
def IsHandshake (text : String) : Prop :=
  ∃ uri headers, Frame.read text = .ok (.handshake uri headers)

/-- What a handshake on an established connection is refused with. -/
def intrusion : Failure := .violation "handshake on an established connection"

/-! ## Effects on the connection and on the local player -/

/-- The frame that an effect hands to the connection. -/
def Effect.frame? : Effect → Option Outbound
  | .write _ frame => some frame
  | _ => none

/-- The instruction that an effect hands to the local player. -/
def Effect.event? : Effect → Option Event
  | .deliver event => some event
  | _ => none

/-- Whether an effect tells others of a change of the collection or of the playlists. -/
def Effect.IsNotice : Effect → Prop
  | .collectionChanged _ | .rootlistChanged => True
  | _ => False

/-- Nothing is written and nothing is handed to the local player. -/
structure Still (effects : List Effect) : Prop where
  frames : effects.filterMap Effect.frame? = []
  events : effects.filterMap Effect.event? = []

/-- Nobody is told of a change, either. -/
structure Mum (effects : List Effect) : Prop extends Still effects where
  notices : ∀ e ∈ effects, ¬e.IsNotice

theorem mum_nil : Mum [] := ⟨⟨rfl, rfl⟩, fun _ mem => nomatch mem⟩

theorem mum_one {e : Effect} (frame : e.frame? = none) (event : e.event? = none)
    (notice : ¬e.IsNotice) : Mum [e] := by
  refine ⟨⟨?_, ?_⟩, List.forall_mem_singleton.mpr notice⟩
  · rw [List.filterMap_cons_none frame, List.filterMap_nil]
  · rw [List.filterMap_cons_none event, List.filterMap_nil]

/-! ## Flows -/

/-- What a session keeps of its connection. -/
structure Line where
  stage : Stage
  connection : Option Connection

def line (s : Session) : Line := ⟨s.stage, s.connection⟩

/-- Whether an input makes the session go on with what it is doing. -/
def Input.IsTurn : Input → Prop
  | .proceed | .delivered _ => True
  | _ => False

/-- Whether the device is announced, or about to be, and the local player is not waited for. -/
def Stage.IsUp : Stage → Prop
  | .announcing _ | .adopting _ | .reading | .replying => True
  | _ => False

/-- Whether the session can lose its connection here. -/
def Stage.CanFall : Stage → Prop
  | .greeting | .announcing _ | .reading => True
  | _ => False

/-- **When the reply to a request is due**: at once if nothing is asked of the local player, else
when it has dealt with everything. -/
inductive ReplyDue (s : Session) : Input → (key : String) → Prop where
  | asked {text key} (stage : s.stage = .reading) (request : request? text = some (key, none)) :
      ReplyDue s (.received (.text text)) key
  | told {accepted event key} (stage : s.stage = .delivering event key)
      (last : event = .transfer → s.snapshot.takeover? s.now = none) :
      ReplyDue s (.delivered accepted) key

/-- **A step, seen from the connection**: the input, the stage and the connection after it, and the
effects. -/
inductive Flow (s : Session) : Input → Line → List Effect → Prop where
  /-- Nothing that matters here. -/
  | stay {i effects} (unread : i.text? = none) (others : ¬i.IsTurn) (mum : Mum effects) :
      Flow s i s.line effects
  /-- A frame that wants no reply. -/
  | pass {text effects} (stage : s.stage = .reading) (request : request? text = none)
      (other : ¬IsHandshake text) (still : Still effects) :
      Flow s (.received (.text text)) s.line effects
  /-- There is no connection before and after. -/
  | idle {i stage effects} (before : s.stage.phase = .seeking ∨ s.stage.phase = .down)
      (same : stage.phase = s.stage.phase) (unread : i.text? = none) (mum : Mum effects) :
      Flow s i ⟨stage, s.connection⟩ effects
  | connect {answer number} (before : s.stage.phase = .seeking) :
      Flow s (.connected answer) ⟨.greeting, some { number }⟩ []
  | greet {text id report} (before : s.stage = .greeting) (named : handshakeId? text = some id) :
      Flow s (.received (.text text))
        ⟨.announcing id, s.connection.map (·.startKeepalive s.clock s.config.pingInterval)⟩
        [.report none id report]
  | refuse {text detail} (before : s.stage = .greeting) (unnamed : handshakeId? text = none) :
      Flow s (.received (.text text)) ⟨.ending (some (.violation detail)), s.connection⟩ []
  /-- On to the next thing that the session waits for. -/
  | turn {i stage effects} (before : s.stage.IsUp) (after : stage.IsUp) (unread : i.text? = none)
      (mum : Mum effects) : Flow s i ⟨stage, s.connection⟩ effects
  | instruct {text key event} (before : s.stage = .reading)
      (request : request? text = some (key, some event)) :
      Flow s (.received (.text text)) ⟨.delivering event key, s.connection⟩ [.deliver event]
  /-- After a transfer the local player goes on with what is playing. -/
  | takeOver {accepted key play} (before : s.stage = .delivering .transfer key)
      (playing : s.snapshot.takeover? s.now = some play) :
      Flow s (.delivered accepted) ⟨.delivering (.play play) key, s.connection⟩
        [.deliver (.play play)]
  | reply {i key c c' stage} (due : ReplyDue s i key) (there : s.connection = some c)
      (handed : c.Submitted (.text (replyText key true)) c')
      (after : stage = .reading ∨ stage = .replying) : Flow s i ⟨stage, some c'⟩ []
  /-- The reply cannot be handed over any more. -/
  | unreplied {i key outcome} (due : ReplyDue s i key)
      (gone : ∀ c, s.connection = some c → c.writerGone = true) :
      Flow s i ⟨.ending outcome, s.connection⟩ []
  | fall {i outcome} (before : s.stage.CanFall) (unread : i.text? = none) :
      Flow s i ⟨.ending outcome, s.connection⟩ []
  /-- A reply waits for room, and the writer is gone. -/
  | stuck {c outcome} (before : s.stage = .replying) (there : s.connection = some c)
      (gone : c.writerGone = true) : Flow s .proceed ⟨.ending outcome, s.connection⟩ []
  | intrude {text} (before : s.stage = .reading) (handshake : IsHandshake text) :
      Flow s (.received (.text text)) ⟨.ending (some intrusion), s.connection⟩ []
  /-- The closing frame is handed over. -/
  | farewell {outcome c c' stage frame} (cancelled : Bool) (before : s.stage = .ending outcome)
      (closing : s.closing? outcome = some frame) (there : s.connection = some c)
      (handed : c.Submitted frame c') (after : stage = .closing ∨ stage = .draining)
      (released : stage = .draining → cancelled = true) :
      Flow s .proceed ⟨stage, some { c' with cancelled }⟩ []
  /-- There is no closing frame, or nobody to write it. -/
  | part {outcome c} (before : s.stage = .ending outcome) (there : s.connection = some c)
      (unsaid : s.closing? outcome = none ∨ c.writerGone = true) :
      Flow s .proceed ⟨.draining, some { c with cancelled := true }⟩ []
  | letGo {c} (before : s.stage = .closing) (there : s.connection = some c) :
      Flow s .proceed ⟨.draining, some { c with cancelled := true }⟩ []
  /-- The attempt is over. -/
  | finish {i stage} (before : s.stage.phase = .seeking ∨
        (s.stage.phase = .spent ∧ s.connection = none) ∨
        s.stage = .draining ∧ ∃ c, s.connection = some c ∧ c.writerGone = true)
      (after : stage.phase = .down) (unread : i.text? = none) : Flow s i ⟨stage, none⟩ []
  | attempt {stage effects} (before : s.stage.phase = .down) (after : stage.phase = .seeking)
      (mum : Mum effects) : Flow s .wake ⟨stage, none⟩ effects
  | write {c c' frame} (there : s.connection = some c) (taken : c.Taken frame c') :
      Flow s .write ⟨s.stage, some c'⟩ [.write c'.number frame]
  /-- The writer ends, there being nothing left to write. -/
  | exhaust {c} (before : s.stage = .draining) (there : s.connection = some c)
      (empty : c.queue = []) (open_ : c.writerGone = false) :
      Flow s .write ⟨s.stage, some c.endWriter⟩ []
  | wrote {ok c c'} (there : s.connection = some c) (wrote : c.Wrote ok c') :
      Flow s (.wrote ok) ⟨s.stage, some c'⟩ []
  | beat {c c'} (there : s.connection = some c) (started : c.keepalive ≠ .absent)
      (beat : c.Beat c') : Flow s .ping ⟨s.stage, some c'⟩ []
  /-- The keep-alive of a connection that is cancelled ends. -/
  | silence {c} (there : s.connection = some c) (started : c.keepalive ≠ .absent)
      (cancelled : s.cancelled = true ∨ c.cancelled = true) :
      Flow s .endKeepalive ⟨s.stage, some { c with keepalive := .gone }⟩ []

/-- What a result does to the connection of the session it comes from. -/
abbrev Flows (s : Session) (i : Input) (r : Result) : Prop := Flow s i r.1.line r.2

variable {s : Session} {i : Input} {r : Result}

/-! ## Seeking a connection -/

theorem finish_flows (before : s.stage.phase = .seeking ∨
      (s.stage.phase = .spent ∧ s.connection = none) ∨
      s.stage = .draining ∧ ∃ c, s.connection = some c ∧ c.writerGone = true)
    (unread : i.text? = none) : Flows s i s.finish :=
  .finish before (finish_phase s) unread

theorem attempt_flows (before : s.stage.phase = .down) : Flows s .wake s.attempt := by
  unfold attempt
  dsimp only
  split
  · exact .attempt before rfl (mum_one rfl rfl nofun)
  · exact .attempt before rfl (mum_one rfl rfl nofun)

theorem resolved_flows (stage : s.stage = .resolving) (answer : Except Failure Endpoints) :
    Flows s (.resolved answer) (s.resolved answer) := by
  have phase : s.stage.phase = .seeking := by rw [stage]; rfl
  cases answer with
  | error cause => exact finish_flows (.inl phase) rfl
  | ok endpoints =>
    have mum : Mum [.repoint endpoints.backendUrl, .authorize] :=
      ⟨⟨rfl, rfl⟩, by simp [Effect.IsNotice]⟩
    exact .idle (.inl phase) phase.symm rfl mum

theorem authorized_flows {base : String} (phase : s.stage.phase = .seeking)
    (answer : Except Failure String) : Flows s (.authorized answer) (s.authorized base answer) := by
  cases answer with
  | error cause => exact finish_flows (.inl phase) rfl
  | ok token => exact .idle (.inl phase) phase.symm rfl (mum_one rfl rfl nofun)

theorem connected_flows (phase : s.stage.phase = .seeking) (answer : Except Failure Unit) :
    Flows s (.connected answer) (s.connected answer) := by
  cases answer with
  | error cause => exact finish_flows (.inl phase) rfl
  | ok _ => exact .connect phase

/-! ## The handshake -/

theorem greet_flows (stage : s.stage = .greeting) (text : String) :
    Flows s (.received (.text text)) (s.greet text) := by
  unfold greet
  split
  · rename_i cause read
    exact .refuse stage (by rw [handshakeId?, read])
  · rename_i frame read
    split
    · rename_i id named
      exact .greet stage (by rw [handshakeId?, read]; exact named)
    · rename_i unnamed
      exact .refuse stage (by rw [handshakeId?, read]; exact unnamed)

theorem announced_flows {id : String} (stage : s.stage = .announcing id)
    (answer : Except Failure Cluster.State) :
    Flows s (.announced answer) (s.announced id answer) := by
  cases answer with
  | error cause => exact .fall (by rw [stage]; trivial) rfl
  | ok cluster => exact .turn (by rw [stage]; trivial) trivial rfl mum_nil

/-! ## Frames -/

theorem reply_flows {key : String} (due : ReplyDue s i key) : Flows s i (s.reply key) := by
  unfold reply
  split
  · rename_i refused
    refine .unreplied due ?_
    intro c there
    rw [there] at refused
    exact Connection.submit?_eq_none_iff.mp refused
  · rename_i c' handed
    obtain ⟨c, there, handed⟩ := Option.bind_eq_some_iff.mp handed
    refine .reply due there (Connection.submit?_submitted handed) ?_
    split
    · exact .inr rfl
    · exact .inl rfl

theorem notify_flows {text uri : String} {payload : Bytes} (stage : s.stage = .reading)
    (request : request? text = none) (other : ¬IsHandshake text) :
    Flows s (.received (.text text)) (s.notify uri payload) := by
  unfold notify
  split
  · split
    · exact .pass stage request other ⟨rfl, rfl⟩
    · exact .pass stage request other ⟨rfl, rfl⟩
  · split
    · refine .pass stage request other ⟨?_, ?_⟩
      · exact List.filterMap_eq_nil_iff.mpr fun e he => by
          obtain ⟨change, -, rfl⟩ := List.mem_map.mp he
          rfl
      · exact List.filterMap_eq_nil_iff.mpr fun e he => by
          obtain ⟨change, -, rfl⟩ := List.mem_map.mp he
          rfl
    · exact .pass stage request other ⟨rfl, rfl⟩
  · exact .pass stage request other ⟨rfl, rfl⟩
  · exact .pass stage request other ⟨rfl, rfl⟩

theorem handle_flows (stage : s.stage = .reading) (text : String) :
    Flows s (.received (.text text)) (s.handle text) := by
  unfold handle
  split
  · rename_i read
    refine .pass stage (by rw [request?, read]) (fun ⟨uri, headers, eq⟩ => ?_) ⟨rfl, rfl⟩
    cases read.symm.trans eq
  · rename_i uri headers read
    exact .intrude stage ⟨uri, headers, read⟩
  · rename_i read
    refine notify_flows stage (by rw [request?, read]) fun ⟨uri, headers, eq⟩ => ?_
    cases read.symm.trans eq
  · rename_i read
    split
    · rename_i event asked
      exact .instruct stage (by rw [request?, read]; exact congrArg _ (congrArg _ asked))
    · rename_i asked
      exact reply_flows (.asked stage (by rw [request?, read]; exact congrArg _ (congrArg _ asked)))
  · rename_i read
    refine .pass stage (by rw [request?, read]) (fun ⟨uri, headers, eq⟩ => ?_) ⟨rfl, rfl⟩
    cases read.symm.trans eq

theorem received_flows {received : Received} (reads : Reads s received r) :
    Flows s (.received received) r := by
  have canFall : s.stage.CanFall := by
    rcases reads.stage with stage | stage <;>
      · rw [stage]
        trivial
  cases reads with
  | greet stage => exact greet_flows stage _
  | handle stage => exact handle_flows stage _
  | failed | ended => exact .fall canFall rfl

theorem delivered_flows {event : Event} {key : String} {accepted : Bool}
    (stage : s.stage = .delivering event key) :
    Flows s (.delivered accepted) (s.delivered event key) := by
  unfold delivered
  by_cases transfer : event = .transfer
  · rw [if_pos transfer, takeover]
    cases playing : s.snapshot.takeover? s.now with
    | some play => exact .takeOver (transfer ▸ stage) playing
    | none => exact reply_flows (.told stage fun _ => playing)
  · rw [if_neg transfer]
    exact reply_flows (.told stage fun eq => absurd eq transfer)

/-! ## The session's own turn -/

theorem close_flows {outcome : Outcome} (stage : s.stage = .ending outcome) :
    Flows s .proceed (s.close outcome) := by
  unfold close
  split
  · rename_i none
    exact finish_flows (.inr (.inl ⟨by rw [stage]; rfl, none⟩)) rfl
  · rename_i c there
    split
    · rename_i unsaid
      exact .part stage there (.inl unsaid)
    · rename_i frame closing
      split
      · rename_i refused
        exact .part stage there (.inr (Connection.submit?_eq_none_iff.mp refused))
      · rename_i c' handed
        have handed := Connection.submit?_submitted handed
        split
        · exact .farewell c'.cancelled stage closing there handed (.inl rfl) nofun
        · exact .farewell true stage closing there handed (.inr rfl) fun _ => rfl

theorem proceed_flows (proceeds : Proceeds s r) : Flows s .proceed r := by
  cases proceeds with
  | abandon phase => exact finish_flows (.inl phase) rfl
  | leave stage => exact .fall (by rw [stage]; trivial) rfl
  | lose stage =>
    rcases stage with ⟨id, stage⟩ | stage <;> exact .fall (by rw [stage]; trivial) rfl
  | adopt stage => exact .turn (by rw [stage]; trivial) trivial rfl (mum_one rfl rfl id)
  | replied stage => exact .turn (by rw [stage]; trivial) trivial rfl mum_nil
  | stuck stage there gone => exact .stuck stage there gone
  | close stage => exact close_flows stage
  | letGo stage there => exact .letGo stage there
  | finish stage there gone => exact finish_flows (.inr (.inr ⟨stage, _, there, gone⟩)) rfl
  | stop stage =>
    have down : s.stage.phase = .down := by rw [stage]; rfl
    exact .idle (.inr down) down.symm rfl mum_nil

/-! ## Reports and commands -/

theorem report_flows (s : Session) (player : Cluster.PlayerState) :
    Flows s (.report player) (s.report player).2 := by
  unfold report
  split
  · exact .stay rfl id mum_nil
  · exact .stay rfl id (mum_one rfl rfl nofun)

theorem reported_flows {number : Nat} {answer : Except Failure Cluster.State}
    (answers : Answers s number answer r) : Flows s (.reported number answer) r := by
  cases answers with
  | drop => exact .stay rfl id mum_nil
  | publish => exact .stay rfl id (mum_one rfl rfl nofun)

theorem send_flows (s : Session) (command : Command) :
    Flows s (.command command) (s.send command).2 := by
  unfold send
  split
  · exact .stay rfl id (mum_one rfl rfl nofun)
  · exact .stay rfl id mum_nil

/-! ## The writer and the keep-alive -/

theorem write_flows (writes : Writes s r) : Flows s .write r := by
  cases writes with
  | take there took => exact .write there (Connection.take?_taken took)
  | exhaust stage there ended =>
    obtain ⟨rfl, empty, open_, -⟩ := Connection.exhausted?_eq_some ended
    exact .exhaust stage there empty open_

theorem step_flows (step : Steps s i r) : Flows s i r := by
  cases step with
  | resolved stage => exact resolved_flows stage _
  | authorized stage => exact authorized_flows (by rw [stage]; rfl) _
  | connected stage => exact connected_flows (by rw [stage]; rfl) _
  | received reads => exact received_flows reads
  | announced stage => exact announced_flows stage _
  | delivered stage => exact delivered_flows stage
  | proceed proceeds => exact proceed_flows proceeds
  | wake stage => exact attempt_flows (by rw [stage]; rfl)
  | write writes => exact write_flows writes
  | wrote there wrote => exact .wrote there (Connection.wrote?_wrote wrote)
  | ping there turn =>
    obtain ⟨started, beat⟩ := Connection.keepalive?_beat turn
    exact .beat there started beat
  | endKeepalive there ended =>
    obtain ⟨started, rfl, cancelled⟩ := Connection.endKeepalive?_eq_some ended
    exact .silence there started cancelled
  | tick | wallClock | cancel => exact .stay rfl id mum_nil
  | report => exact report_flows s _
  | reported answers => exact reported_flows answers
  | command => exact send_flows s _

/-- **Every step is a flow.** -/
theorem step?_flow {s' : Session} {effects : List Effect} (h : s.step? i = some (s', effects)) :
    Flow s i s'.line effects :=
  step_flows (step?_steps h)

/-! ## What becomes of the connection -/

/-- **A connection that is there is the one from before**, and what became of it is told by its
operations, or it is a new one. -/
theorem Flow.turns {l : Line} {effects : List Effect} {c' : Connection} (flow : Flow s i l effects)
    (there : l.connection = some c') : (∃ c, s.connection = some c ∧ c.Turns c') ∨
      s.stage.phase = .seeking ∧ (∃ answer, i = .connected answer) ∧ ∃ number, c' = { number } := by
  cases flow with
  | stay | pass | idle | refuse | turn | instruct | takeOver | unreplied | fall | stuck
    | intrude => exact .inl ⟨c', there, .refl c'⟩
  | connect seeking =>
    cases there
    exact .inr ⟨seeking, ⟨_, rfl⟩, _, rfl⟩
  | greet =>
    obtain ⟨c, here, rfl⟩ := Option.map_eq_some_iff.mp there
    exact .inl ⟨c, here, .touch id⟩
  | reply _ here handed | farewell _ _ _ here handed =>
    cases there
    exact .inl ⟨_, here, .handed handed⟩
  | part _ here | letGo _ here =>
    cases there
    exact .inl ⟨_, here, .touch fun _ => rfl⟩
  | finish | attempt => cases there
  | write here taken =>
    cases there
    exact .inl ⟨_, here, .taken taken⟩
  | exhaust _ here =>
    cases there
    exact .inl ⟨_, here, .exhausted⟩
  | wrote here wrote =>
    cases there
    exact .inl ⟨_, here, .wrote wrote⟩
  | beat here _ beat =>
    cases there
    exact .inl ⟨_, here, beat.turns⟩
  | silence here =>
    cases there
    exact .inl ⟨_, here, .touch id⟩

end RemotePlayback.Session
