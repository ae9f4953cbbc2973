import RemotePlayback.Proofs.Session.Closing
import RemotePlayback.Proofs.Session.Connections
import RemotePlayback.Proofs.Session.Publication

/-! What an attempt does without a handshake, and with a second one.

The first frame of a connection has to be a handshake that names the connection. Before it nothing
is sent or published, and if it is anything else nothing ever is, but for the frame that closes the
connection. On an announced connection another handshake is a breach of the protocol: no frame
behind it is read, and the connection is closed once everything due before was written. -/

namespace RemotePlayback.Session

open Playback Dealer

variable {config : Config} {now : Int64} {ms past rest : List Moment} {m : Moment}
  {s s' : Session} {i : Input} {l : Line} {effects : List Effect} {epoch : Nat} {text id : String}

/-! ## Handshakes -/

/-- **A usable handshake**: a text that names its connection, by more than blanks. -/
def Names (text id : String) : Prop :=
  ∃ uri headers, Frame.read text = .ok (.handshake uri headers) ∧
    headers.find? "Spotify-Connection-Id" = some id ∧ Text.isAllBlank id = false

/-- The first frame that was read on an attempt named its connection. -/
def Greeted (ms : List Moment) (epoch : Nat) (id : String) : Prop :=
  ∃ text, heard? ms epoch = some text ∧ Names text id

theorem handshakeId?_eq_some_iff : handshakeId? text = some id ↔ Names text id := by
  unfold handshakeId? Names
  cases read : Frame.read text with
  | error cause => simp
  | ok frame =>
    cases frame with
    | handshake uri headers =>
      simp only [Frame.connectionId?, connectionIdHeader, Option.filter_eq_some_iff,
        Bool.not_eq_eq_eq_not, Bool.not_true]
      constructor
      · exact fun named => ⟨uri, headers, rfl, named⟩
      · rintro ⟨uri', headers', eq, named⟩
        cases eq
        exact named
    | notification | request | pong => simp [Frame.connectionId?]

theorem handshake?_eq_some_iff : handshake? ms epoch = some id ↔ Greeted ms epoch id := by
  unfold handshake? Greeted
  simp only [Option.bind_eq_some_iff, handshakeId?_eq_some_iff]

theorem heard?_append (more : List Moment) (h : heard? ms epoch = some text) :
    heard? (ms ++ more) epoch = some text := by
  rw [heard?, firstOn?] at h ⊢
  rw [List.findSome?_append, h, Option.some_or]

/-- A greeting is not taken back. -/
theorem Greeted.append (more : List Moment) (h : Greeted ms epoch id) :
    Greeted (ms ++ more) epoch id := by
  obtain ⟨text, heard, named⟩ := h
  exact ⟨text, heard?_append more heard, named⟩

/-- An attempt between its handshake and its end was greeted. -/
theorem Run.handshake_of_greeted (run : Run config now ms s) (low : 2 ≤ s.rank)
    (high : s.rank ≤ 4) : ∃ id, handshake? ms s.epoch = some id := by
  have traced := run.traced
  have heard := traced.heard
  have placed := run.placed.phase
  unfold rank at low high
  unfold Core.Heard at heard
  unfold Core.InPhase at placed
  have phase : s.core.phase = s.stage.phase := rfl
  rw [phase] at heard placed
  cases stage : s.stage.phase with
  | announcing id =>
    rw [stage] at heard
    exact ⟨id, heard.1⟩
  | adopting cluster =>
    rw [stage] at placed
    obtain ⟨⟨id, linked⟩, -⟩ := placed
    exact ⟨id, traced.linked _ linked⟩
  | live =>
    rw [stage] at placed
    obtain ⟨id, linked⟩ := placed.link
    exact ⟨id, traced.linked _ linked⟩
  | seeking | greeting | spent | down => simp [stage, Phase.rank] at low high

/-! ## Without a handshake -/

/-- **A mute connection**: no text is to be written on it, and there are no pings. -/
structure Connection.Mute (c : Connection) : Prop where
  keepalive : c.keepalive = .absent
  silent : ∀ f ∈ c.pending, f.text? = none

/-- A mute connection stays so as long as nothing is handed over. -/
theorem Connection.Mute.mono {c c' : Connection} (h : c.Mute)
    (keepalive : c'.keepalive = c.keepalive) (fewer : c'.pending ⊆ c.pending) : c'.Mute :=
  ⟨keepalive.trans h.keepalive, fun f mem => h.silent f (fewer mem)⟩

/-- The connection, if there is one, is mute. -/
def Line.Mute (l : Line) : Prop := ∀ c, l.connection = some c → c.Mute

/-- Whether an attempt is before its handshake, or at its end. -/
def Stage.IsDeaf (stage : Stage) : Prop := stage.phase.rank ≤ 1 ∨ 5 ≤ stage.phase.rank

theorem not_deaf_of_replyDue {key : String} (due : ReplyDue s i key) : ¬s.stage.IsDeaf := by
  cases due with
  | asked stage | told stage => simp [Stage.IsDeaf, stage, Stage.phase, Phase.rank]

theorem Run.deaf (run : Run config now ms s) (none : handshake? ms s.epoch = none) :
    s.stage.IsDeaf := by
  by_cases early : s.rank ≤ 1
  · exact .inl early
  · by_cases late : 5 ≤ s.rank
    · exact .inr late
    · obtain ⟨id, named⟩ := run.handshake_of_greeted (by omega) (by omega)
      cases none.symm.trans named

/-- **A connection without a handshake stays mute.** -/
theorem Flow.mute (flow : Flow s i l effects) (h : s.line.Mute) (before : s.stage.IsDeaf)
    (after : l.stage.IsDeaf) : l.Mute := by
  cases flow with
  | stay | pass | idle | refuse | turn | instruct | takeOver | unreplied | fall | stuck
    | intrude => exact h
  | connect =>
    rintro c ⟨⟩
    exact ⟨rfl, fun f mem => nomatch mem⟩
  -- the two flows that need a handshake: it is read, or a request behind it is
  | greet => simp [Stage.IsDeaf, Stage.phase, Phase.rank] at after
  | reply due => exact absurd before (not_deaf_of_replyDue due)
  | farewell cancelled _ closing there handed =>
    rintro c' ⟨⟩
    have mute := h _ there
    have silent := forall_mem_concat mute.silent (closing?_text? closing)
    exact ⟨handed.keepalive.trans mute.keepalive, handed.pending ▸ silent⟩
  | part _ there | letGo _ there =>
    rintro c ⟨⟩
    exact (h _ there).mono rfl (List.Subset.refl _)
  | finish | attempt =>
    intro c there
    cases there
  | write there taken =>
    rintro c ⟨⟩
    exact (h _ there).mono taken.keepalive (taken.pending ▸ List.Subset.refl _)
  | exhaust _ there =>
    rintro c ⟨⟩
    exact (h _ there).mono rfl (Connection.endWriter_pending_sublist _).subset
  | wrote there wrote =>
    rintro c' ⟨⟩
    refine (h _ there).mono ?_ wrote.pending_sublist.subset
    cases wrote <;> rfl
  | beat there started | silence there started => exact absurd (h _ there).keepalive started

/-- **Without a handshake the connection is mute**, throughout the attempt. -/
theorem Run.mute (run : Run config now ms s) (none : handshake? ms s.epoch = none) :
    s.line.Mute := by
  induction run with
  | start =>
    obtain ⟨stage, line, -⟩ := start_line config now
    rw [line]
    intro c there
    cases there
  | @step ms s i s' effects run h ih =>
    have run' := run.step h
    rcases (step?_change h).attempts_or with ⟨-, seeking, -⟩ | ⟨-, same⟩
    · -- the next attempt has no connection yet
      intro c there
      cases there.symm.trans (run'.wired.mpr (.inl seeking))
    · have same : s'.epoch = s.epoch := same
      have earlier : handshake? ms s.epoch = Option.none := by
        apply Option.eq_none_iff_forall_ne_some.mpr
        intro id named
        rw [same, handshake?_append _ named] at none
        cases none
      exact (step?_flow h).mute (ih earlier) (run.deaf earlier) (run'.deaf none)

/-! ## What takes a handshake -/

/-- Whatever is written was pending on the connection. -/
theorem Flow.written_pending {number : Nat} {f : Outbound} (flow : Flow s i l effects)
    (mem : .write number f ∈ effects) : ∃ c, s.connection = some c ∧ f ∈ c.pending := by
  obtain ⟨c, c', there, taken, -⟩ := flow.of_write mem
  refine ⟨c, there, List.mem_append_right _ ?_⟩
  rw [taken.unwritten]
  exact List.mem_cons_self

/-- Only a handshake makes the session announce the device, under the id that it names. -/
theorem Change.of_announcement {k k' : Core} {report : Cluster.StateReport}
    (change : Change k i k' effects) (mem : .report none id report ∈ effects) :
    k'.phase = .announcing id ∧ k'.epoch = k.epoch := by
  cases change with
  | greet =>
    cases List.mem_singleton.mp mem
    exact ⟨rfl, rfl⟩
  | quiet _ _ silent | fall _ silent | attempt _ silent => exact (silent _ mem).elim
  | connect | announced | finish | drop => cases mem
  | adopt | push | report | answer | post => cases List.mem_singleton.mp mem

/-- **A text is written only on a connection with a handshake**, be it a ping or a reply. -/
theorem Run.greeted_of_text {number : Nat} (run : Run config now ms s)
    (step : s.step? i = some (s', effects)) (mem : .write number (.text text) ∈ effects) :
    ∃ id, Greeted ms s.epoch id := by
  obtain ⟨c, there, pending⟩ := (step?_flow step).written_pending mem
  cases named : handshake? ms s.epoch with
  | some id => exact ⟨id, handshake?_eq_some_iff.mp named⟩
  | none => cases (run.mute named c there).silent _ pending

/-- **The device is announced by the handshake alone**, under its id. -/
theorem Run.greeted_of_announcement {report : Cluster.StateReport} (run : Run config now ms s)
    (step : s.step? i = some (s', effects)) (mem : .report none id report ∈ effects) :
    Greeted (ms ++ [⟨s, i, s', effects⟩]) s.epoch id := by
  obtain ⟨phase, epoch⟩ := (step?_change step).of_announcement mem
  have heard := (run.step step).traced.heard
  rw [Core.Heard, phase, epoch] at heard
  exact handshake?_eq_some_iff.mp heard.1

/-- A link has the id of the handshake. -/
theorem Run.greeted_of_link {link : Link} (run : Run config now ms s)
    (linked : s.link = some link) : Greeted ms s.epoch link.connectionId :=
  handshake?_eq_some_iff.mp (run.traced.linked link linked)

/-- **Nothing is published without a handshake.** -/
theorem Run.greeted_of_publication {n : Snapshot} (run : Run config now ms s)
    (step : s.step? i = some (s', effects)) (mem : .publish n ∈ effects) :
    n.epoch = s.epoch ∧ ∃ id, Greeted ms s.epoch id := by
  have change := step?_change step
  have published : n ∈ effects.filterMap Effect.snapshot? :=
    List.mem_filterMap.mpr ⟨_, mem, rfl⟩
  rcases change.publishes_or with ⟨none, -, -⟩ | ⟨c, epoch, source, rfl, -, -⟩
  · rw [none] at published
    cases published
  · cases List.mem_singleton.mp mem
    refine ⟨run.placed.publishes_epoch source, ?_⟩
    have named : ∃ id, handshake? ms s.epoch = some id := by
      cases source with
      | adopted phase | pushed phase =>
        have phase : s.stage.phase = _ := phase
        refine run.handshake_of_greeted ?_ ?_
        · simp [rank, phase, Phase.rank]
        · simp [rank, phase, Phase.rank]
      | answered _ linked => exact ⟨_, run.traced.linked _ linked⟩
    obtain ⟨id, named⟩ := named
    exact ⟨id, handshake?_eq_some_iff.mp named⟩

/-! ## Attempts without a handshake -/

section Ungreeted

variable (run : Run config now ms s) (ungreeted : ∀ id, ¬Greeted ms epoch id)

include run ungreeted

/-- Nothing is published with the epoch of the attempt. -/
theorem Run.unpublished : ∀ n ∈ publications ms, n.epoch ≠ epoch := by
  rintro n mem rfl
  obtain ⟨m, mem, published⟩ := List.mem_flatMap.mp mem
  obtain ⟨past, rest, rfl, run, step⟩ := run.of_mem mem
  obtain ⟨e, effect, told⟩ := List.mem_filterMap.mp published
  cases e <;> cases told
  obtain ⟨on, id, greeted⟩ := run.greeted_of_publication step effect
  exact ungreeted id (on ▸ greeted.append _)

/-- No text is written on the attempt. -/
theorem Run.textless : ∀ f ∈ written (during ms epoch), f.text? = none := by
  intro f mem
  obtain ⟨m, mem, sent⟩ := List.mem_flatMap.mp mem
  obtain ⟨mem, on⟩ := mem_during.mp mem
  obtain ⟨past, rest, rfl, run, step⟩ := run.of_mem mem
  obtain ⟨e, effect, told⟩ := List.mem_filterMap.mp sent
  cases e <;> cases told
  cases f with
  | close => rfl
  | text text =>
    obtain ⟨id, greeted⟩ := run.greeted_of_text step effect
    rw [on] at greeted
    exact absurd (greeted.append _) (ungreeted id)

/-- Where there are no texts, none is lost. -/
theorem Run.lossless : ∀ m ∈ during ms epoch, ¬m.Loses := by
  rintro m mem ⟨-, c, text, there, writing⟩
  obtain ⟨mem, on⟩ := mem_during.mp mem
  obtain ⟨past, rest, rfl, run, -⟩ := run.of_mem mem
  cases named : handshake? past m.before.epoch with
  | some id =>
    have greeted := handshake?_eq_some_iff.mp named
    rw [on] at greeted
    exact ungreeted id (greeted.append _)
  | none =>
    have pending : .text text ∈ c.pending := by simp [Connection.pending, writing]
    cases (run.mute named c there).silent _ pending

/-- **All that is ever written on an attempt without a handshake** is what became due. -/
theorem Run.written_of_ungreeted (ended : s.Over epoch) :
    written (during ms epoch) = dues (during ms epoch) := by
  rw [← run.written_of_over ended (run.lossless ungreeted), own, List.filter_eq_self.mpr]
  intro f mem
  have closing := run.textless ungreeted f mem
  apply decide_eq_true
  intro eq
  rw [eq] at closing
  cases closing

end Ungreeted

/-! ## Breaches of the protocol -/

/-- **A first frame that is no handshake** breaks the protocol. -/
theorem Run.refused (run : Run config now past m.before)
    (step : m.before.step? m.input = some (m.after, m.effects))
    (input : m.input = .received (.text text)) (first : heard? past m.before.epoch = none)
    (unnamed : ∀ id, ¬Names text id) : m.before.rank = 1 ∧ ∃ detail, m.Breaks detail := by
  rw [input] at step
  rcases stage_of_received step with stage | stage
  · have early : m.before.rank = 1 := by rw [rank, stage]; rfl
    have nothing : m.before.due m.input = [] := due_of_early (Nat.le_of_eq early)
    have read : m.before.greet text = (m.after, m.effects) := by
      simpa only [step?, received?, stage, Option.some.injEq] using step
    refine ⟨early, ?_⟩
    unfold greet at read
    split at read
    · obtain ⟨after, effects⟩ := Prod.mk.inj read
      exact ⟨_, effects.symm, after.symm, nothing⟩
    · rename_i frame decoded
      split at read
      · rename_i id named
        have names : handshakeId? text = some id := by rw [handshakeId?, decoded]; exact named
        exact absurd (handshakeId?_eq_some_iff.mp names) (unnamed id)
      · obtain ⟨after, effects⟩ := Prod.mk.inj read
        exact ⟨_, effects.symm, after.symm, nothing⟩
  · -- frames are read here only after the handshake
    obtain ⟨id, named⟩ := run.handshake_of_greeted (by simp [rank, stage, Stage.phase, Phase.rank])
      (by simp [rank, stage, Stage.phase, Phase.rank])
    obtain ⟨text', heard, -⟩ := handshake?_eq_some_iff.mp named
    cases first.symm.trans heard

/-- Nothing is heard later that would take the place of a first frame. -/
theorem not_greeted_of_refused (split : ms = past ++ m :: rest)
    (input : m.input = .received (.text text)) (first : heard? past m.before.epoch = none)
    (unnamed : ∀ id, ¬Names text id) (id : String) : ¬Greeted ms m.before.epoch id := by
  rintro ⟨text', heard, named⟩
  have here : heard? (past ++ [m]) m.before.epoch = some text := by
    rw [heard?, firstOn?_append, ← heard?, first, if_pos rfl, input]
    rfl
  have there := heard?_append rest here
  rw [List.append_assoc, List.singleton_append, ← split, heard] at there
  cases there
  exact unnamed id named

/-- **Another handshake** breaks the protocol. -/
theorem Run.intruded (run : Run config now past m.before)
    (step : m.before.step? m.input = some (m.after, m.effects))
    (input : m.input = .received (.text text))
    (announced : announcement? past m.before.epoch ≠ none) (handshake : IsHandshake text) :
    m.before.rank = 4 ∧ m.Breaks "handshake on an established connection" := by
  rw [input] at step
  rcases stage_of_received step with stage | stage
  · -- the device is not announced yet where the handshake is to come
    have heard := run.traced.heard
    have phase : m.before.core.phase = .greeting := by rw [core, stage]; rfl
    rw [Core.Heard, phase] at heard
    exact absurd heard.2 announced
  · obtain ⟨uri, headers, decoded⟩ := handshake
    have nothing : m.before.due m.input = [] := by
      rw [input]
      exact due_of_text fun _ => by rw [request?, decoded]
    have read : m.before.fail intrusion = (m.after, m.effects) := by
      simpa only [step?, received?, stage, handle, decoded, intrusion, Option.some.injEq] using step
    obtain ⟨after, effects⟩ := Prod.mk.inj read
    exact ⟨by rw [rank, stage]; rfl, effects.symm, after.symm, nothing⟩

/-- A breach of the protocol is the end of an attempt. -/
theorem Moment.Breaks.late {detail : String} (broken : m.Breaks detail) : 5 ≤ m.after.rank := by
  rw [broken.after]
  exact Nat.le_refl 5

/-- **Behind a breach of the protocol no frame is read** on the attempt, the local player is told
nothing, and nobody is told of changes. -/
theorem Run.deaf_after (run : Run config now ms s) (split : ms = past ++ m :: rest)
    (late : 5 ≤ m.after.rank) : ∀ m' ∈ during rest m.before.epoch,
      (∀ r, m'.before.step? (.received r) = none) ∧
      ∀ e ∈ m'.effects, e.event? = none ∧ ¬e.IsNotice := by
  intro m' mem
  obtain ⟨mem, on⟩ := mem_during.mp mem
  obtain ⟨front, run', step⟩ := run.after split mem
  have late' := Nat.le_trans late (run'.rank_after rfl on.symm)
  exact ⟨received?_of_late late', (step?_flow step).silent_of_late late'⟩

/-! ## The theorem -/

/-- **A connection is of use only with a handshake, and only with one.** Whenever the device is
announced, the first frame of the connection was a handshake, and it is announced under the id which
that names; without one nothing is published, the session is not ready, and no text is written, be
it a ping or a reply. If the first frame is no usable handshake nothing is ever published with the
epoch of that attempt, and all that is written is a frame that closes the connection because the
protocol was broken. On an announced connection any handshake ends the attempt: no frame is read
behind it, and unless a text was lost, the replies to the requests before it are written, and then
such a closing frame. Both times the attempt can be brought to its end by the turns of the session
and its connection alone. -/
theorem connection_needs_handshake (run : Run config now ms s) :
    (∀ past m rest, ms = past ++ m :: rest →
      (∀ id report, .report none id report ∈ m.effects →
        Greeted (past ++ [m]) m.before.epoch id) ∧
      (∀ n, .publish n ∈ m.effects →
        n.epoch = m.before.epoch ∧ ∃ id, Greeted past m.before.epoch id) ∧
      ∀ number text, .write number (.text text) ∈ m.effects →
        ∃ id, Greeted past m.before.epoch id) ∧
    (∀ id, s.connectionId? = some id → Greeted ms s.epoch id) ∧
    (∀ past m rest text, ms = past ++ m :: rest → m.input = .received (.text text) →
      heard? past m.before.epoch = none → (∀ id, ¬Names text id) →
      ∃ detail, m.effects = [] ∧
        m.after = { m.before with stage := .ending (some (.violation detail)) } ∧
        (∀ n ∈ publications ms, n.epoch ≠ m.before.epoch) ∧
        (s.Over m.before.epoch →
          written (during ms m.before.epoch) = [.close .protocolError detail]) ∧
        Closable config now ms m.before.epoch) ∧
    ∀ past m rest text, ms = past ++ m :: rest → m.input = .received (.text text) →
      announcement? past m.before.epoch ≠ none → IsHandshake text →
      m.effects = [] ∧ m.after = { m.before with stage := .ending (some intrusion) } ∧
        (∀ m' ∈ during rest m.before.epoch, (∀ r, m'.before.step? (.received r) = none) ∧
          ∀ e ∈ m'.effects, e.event? = none ∧ ¬e.IsNotice) ∧
        (s.epoch = m.before.epoch → ∀ r, s.step? (.received r) = none) ∧
        ((∀ m' ∈ during ms m.before.epoch, ¬m'.Loses) → s.Over m.before.epoch →
          own (written (during ms m.before.epoch)) =
            ((requests (during past m.before.epoch)).map fun key => .text (replyText key true)) ++
              [.close .protocolError "handshake on an established connection"]) ∧
        Closable config now ms m.before.epoch := by
  refine ⟨?_, ?_, ?_, ?_⟩
  · intro past m rest split
    obtain ⟨run, step⟩ := run.moment split
    refine ⟨?_, ?_, ?_⟩
    · intro id report mem
      exact run.greeted_of_announcement step mem
    · intro n mem
      exact run.greeted_of_publication step mem
    · intro number text mem
      exact run.greeted_of_text step mem
  · intro id ready
    obtain ⟨link, there, rfl⟩ := Option.map_eq_some_iff.mp ready
    exact run.greeted_of_link (readyLink?_eq_some_iff.mp there).1
  · intro past m rest text split input first unnamed
    obtain ⟨before, step⟩ := run.moment split
    obtain ⟨rank, detail, broken⟩ := before.refused step input first unnamed
    have ungreeted := not_greeted_of_refused split input first unnamed
    refine ⟨detail, broken.effects, broken.after, run.unpublished ungreeted, ?_,
      run.closable split broken.late⟩
    intro ended
    -- before the first frame nothing is due, and behind it the closing frame alone
    have early : dues (during past m.before.epoch) = [] :=
      dues_of_early fun m' mem => rank ▸ before.rank_before m' mem
    rw [run.written_of_ungreeted ungreeted ended, run.dues_of_broken split broken ended, early]
    rfl
  · intro past m rest text split input announced handshake
    obtain ⟨before, step⟩ := run.moment split
    obtain ⟨rank, broken⟩ := before.intruded step input announced handshake
    refine ⟨broken.effects, broken.after, run.deaf_after split broken.late, ?_, ?_,
      run.closable split broken.late⟩
    · intro on
      exact received?_of_late (Nat.le_trans broken.late (run.rank_after split on.symm))
    · intro kept ended
      have live : dues (during past m.before.epoch) = (requests (during past m.before.epoch)).map
          fun key => .text (replyText key true) :=
        dues_of_live fun m' mem => rank ▸ before.rank_before m' mem
      rw [run.written_of_over ended kept, run.dues_of_broken split broken ended, live]
      rfl

/-! Two connections on which another handshake follows a request. -/

/-- A connection on which a request was read, up to the moment at which its reply is written. -/
def asking (key : String) : List Input :=
  joining "one" {} ++ [.received (.text (bareRequestText key)), .write]

theorem isHandshake_handshakeText : IsHandshake (handshakeText "two") := by
  have named : handshakeId? (handshakeText "two") = some "two" := by decide +kernel
  obtain ⟨uri, headers, read, -⟩ := handshakeId?_eq_some_iff.mp named
  exact ⟨uri, headers, read⟩

/-- The request is replied to before the connection is closed. -/
theorem intruder_is_shut_out : ∃ ms s, Run sampleConfig 0 ms s ∧ s.Over 1 ∧
    (∀ m ∈ during ms 1, ¬m.Loses) ∧ own (written (during ms 1)) =
      [.text (replyText "k" true),
        .close .protocolError "handshake on an established connection"] := by
  let inputs := asking "k" ++ .received (.text (handshakeText "two")) ::
    [.wrote true, .proceed, .write, .wrote true, .proceed, .wake]
  have ended : (replay? sampleConfig 0 inputs).map (·.2.epoch) = some 2 := by decide +kernel
  have told : (replay? sampleConfig 0 (asking "k")).map (fun run =>
      ((announcement? run.1 1).isSome, requests (during run.1 1), run.2.epoch)) =
        some (true, ["k"], 1) := by decide +kernel
  obtain ⟨⟨ms, s⟩, replayed, ended⟩ := Option.map_eq_some_iff.mp ended
  obtain ⟨past, m, rest, split, before, input⟩ := split_of_replay? replayed
  rw [before, Option.map_some, Option.some.injEq, Prod.mk.injEq, Prod.mk.injEq] at told
  obtain ⟨announced, asked, epoch⟩ := told
  have ended : s.Over 1 := .inl (by rw [ended]; decide)
  have kept : ∀ m ∈ during ms 1, ¬m.Loses := by
    rintro m mem ⟨lost, -⟩
    have among := List.mem_map_of_mem (f := (·.input)) (List.mem_filter.mp mem).1
    rw [inputs_of_replay? replayed, lost] at among
    simp [inputs, asking, joining] at among
  have run := Run.of_replay? replayed
  obtain ⟨-, -, -, shut⟩ := connection_needs_handshake run
  have shut := shut past m rest _ split input
  rw [epoch] at shut
  obtain ⟨-, -, -, -, all, -⟩ :=
    shut (Option.isSome_iff_ne_none.mp announced) isHandshake_handshakeText
  refine ⟨ms, s, run, ended, kept, ?_⟩
  rw [all kept ended, asked]
  rfl

/-- **No closing frame is written** when the reply before it fails to be. -/
theorem intruder_on_broken_connection : ∃ past m rest s,
    Run sampleConfig 0 (past ++ m :: rest) s ∧
    m.input = .received (.text (handshakeText "two")) ∧
    announcement? past m.before.epoch ≠ none ∧ IsHandshake (handshakeText "two") ∧
    s.Over m.before.epoch ∧
    written (during (past ++ m :: rest) m.before.epoch) = [.text (replyText "k" true)] := by
  have ended : (replay? sampleConfig 0 (asking "k" ++ .received (.text (handshakeText "two")) ::
      [.wrote false, .proceed, .proceed, .wake])).map (fun run =>
        (run.2.epoch, written (during run.1 1))) = some (2, [.text (replyText "k" true)]) := by
    decide +kernel
  have told : (replay? sampleConfig 0 (asking "k")).map (fun run =>
      ((announcement? run.1 1).isSome, run.2.epoch)) = some (true, 1) := by decide +kernel
  obtain ⟨⟨ms, s⟩, replayed, ended⟩ := Option.map_eq_some_iff.mp ended
  obtain ⟨past, m, rest, rfl, before, input⟩ := split_of_replay? replayed
  rw [before, Option.map_some, Option.some.injEq, Prod.mk.injEq] at told
  obtain ⟨announced, epoch⟩ := told
  obtain ⟨later, written⟩ := Prod.mk.inj ended
  refine ⟨past, m, rest, s, Run.of_replay? replayed, input, ?_, isHandshake_handshakeText, ?_, ?_⟩
  · rw [epoch]
    exact Option.isSome_iff_ne_none.mp announced
  · rw [epoch]
    exact .inl (by rw [later]; decide)
  · rw [epoch]
    exact written

end RemotePlayback.Session
