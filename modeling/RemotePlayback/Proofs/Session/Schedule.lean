import RemotePlayback.Proofs.Session.Greeting
import RemotePlayback.Proofs.Session.Pause

/-! The schedule of the pings.

The first ping of a connection is due when its handshake is accepted, and each further one an
interval later. Every ping that the keep-alive hands over was due by then, and a ping that is late
does not move those after it. So as long as the connection lasts, the number of pings that were
handed over tells when the next one is due (`OnSchedule`), whatever else is read and written. -/

namespace RemotePlayback.Session

open Playback Dealer

variable {config : Config} {now : Int64} {ms past rest : List Moment} {m : Moment}
  {s s' : Session} {i : Input} {l : Line} {effects : List Effect} {n : Nat}

/-! ## Counting pings -/

/-- **The number of pings** among frames. -/
def pings (frames : List Outbound) : Nat := frames.count (.text pingText)

@[simp] theorem pings_nil : pings [] = 0 := rfl

@[simp] theorem pings_append (frames more : List Outbound) :
    pings (frames ++ more) = pings frames + pings more := List.count_append

@[simp] theorem pings_ping : pings [.text pingText] = 1 := List.count_singleton_self

theorem pings_of_not_mem {frames : List Outbound} (other : .text pingText ∉ frames) :
    pings frames = 0 := List.count_eq_zero_of_not_mem other

/-! ## The keep-alive's turn -/

/-- When the next ping is due. -/
def Keepalive.due? : Keepalive → Option Nat
  | .idle next | .sending next => some next
  | .absent | .gone => none

/-- **What the keep-alive does in its turn**: it hands the ping over that is due, or it does not
touch what is to be written and goes by the same schedule, or it ends with the connection. -/
inductive Connection.Strikes (c : Connection) (clock interval : Nat) : Connection → Prop where
  | ping {next c' keepalive} (was : c.keepalive.due? = some next) (due : next ≤ clock)
      (handed : c.Submitted (.text pingText) c') (later : keepalive.due? = some (next + interval)) :
      c.Strikes clock interval { c' with keepalive }
  | settle {keepalive} (same : keepalive.due? = c.keepalive.due?) :
      c.Strikes clock interval { c with keepalive }
  | giveUp : c.Strikes clock interval c.giveUp

theorem Connection.keepalive?_strikes {c c' : Connection} {clock interval : Nat}
    (turn : c.keepalive? clock interval = some c') : c.Strikes clock interval c' := by
  unfold keepalive? at turn
  split at turn
  · cases turn
  · cases turn
  · rename_i next idle
    have was : c.keepalive.due? = some next := by rw [idle]; rfl
    split at turn
    · cases turn
    · rename_i due
      split at turn
      · cases turn
        exact .giveUp
      · rename_i c₁ handed
        split at turn
        · cases turn
          exact .ping was (Nat.le_of_not_lt due) (submit?_submitted handed) rfl
        · cases turn
          exact .ping was (Nat.le_of_not_lt due) (submit?_submitted handed) rfl
  · rename_i next sending
    split at turn
    · split at turn
      · cases turn
        exact .giveUp
      · cases turn
    · cases turn
      exact .settle (by rw [sending]; rfl)

/-! ## All other steps -/

/-- No other frame that is handed over is a ping. -/
theorem Hands.ne_ping {f : Outbound} (hands : Hands s i f) (other : i ≠ .ping) :
    f ≠ .text pingText := by
  cases hands with
  | ping => exact absurd rfl other
  | reply =>
    intro same
    exact replyText_ne_pingText _ _ (Outbound.text.inj same)
  | close _ closing =>
    rintro rfl
    cases closing?_text? closing

/-- **No other step adds a ping**: those that it writes, and those to be written after it, were to
be written before, unless the writer goes. -/
theorem Moves.pings_eq {c c' : Connection} (moves : Moves s i l effects) (other : i ≠ .ping)
    (there : s.connection = some c) (there' : l.connection = some c')
    (open_ : c'.writerGone = false) :
    pings (effects.filterMap Effect.frame?) + pings c'.unwritten = pings c.unwritten := by
  have after : l.unwritten = c'.unwritten := by rw [Line.unwritten, there']
  have before : s.line.unwritten = c.unwritten := unwritten_of_there there
  cases moves with
  | rest silent same | forgo silent same =>
    rw [silent, pings_nil, Nat.zero_add, ← after, same, before]
  | drop _ _ _ _ shut => cases open_.symm.trans (shut c' there')
  | write _ _ written first =>
    rw [written, ← before, first, ← after, ← pings_append]
    rfl
  | hand _ _ silent hands last =>
    have no_ping : pings [_] = 0 :=
      pings_of_not_mem fun mem => hands.ne_ping other (List.mem_singleton.mp mem).symm
    rw [silent, pings_nil, Nat.zero_add, ← after, last, pings_append, no_ping, before, Nat.add_zero]

/-- **No other step touches the keep-alive**, once the handshake was read and as long as nothing is
cancelled. -/
theorem Flow.keeps_keepalive {c c' : Connection} (flow : Flow s i l effects) (other : i ≠ .ping)
    (low : 2 ≤ s.rank) (running : s.cancelled = false) (here : s.connection = some c)
    (up : c.cancelled = false) (there : l.connection = some c') : c'.keepalive = c.keepalive := by
  have early (phase : s.stage.phase = .seeking ∨ s.stage.phase = .greeting) : False := by
    rcases phase with phase | phase <;> simp [rank, phase, Phase.rank] at low
  cases flow with
  | stay | pass | idle | refuse | turn | instruct | takeOver | unreplied | fall | stuck
    | intrude =>
    cases here.symm.trans there
    rfl
  | connect before => exact (early (.inl before)).elim
  | greet before => exact (early (.inr (by rw [before]; rfl))).elim
  | reply _ here' handed | farewell _ _ _ here' handed =>
    cases here.symm.trans here'
    cases there
    exact handed.keepalive
  | part _ here' | letGo _ here' | exhaust _ here' =>
    cases here.symm.trans here'
    cases there
    rfl
  | finish | attempt => cases there
  | write here' taken =>
    cases here.symm.trans here'
    cases there
    exact taken.keepalive
  | wrote here' wrote =>
    cases here.symm.trans here'
    cases there
    cases wrote <;> rfl
  | beat => exact absurd rfl other
  | silence here' _ cancelled =>
    cases here.symm.trans here'
    rcases cancelled with cancelled | cancelled
    · cases running.symm.trans cancelled
    · cases up.symm.trans cancelled

/-! ## As long as an attempt lasts -/

/-- No step of an attempt goes back. -/
theorem step?_rank_le (step : s.step? i = some (s', effects)) (same : s'.epoch = s.epoch) :
    s.rank ≤ s'.rank := by
  rcases (step?_change step).attempts_or with ⟨-, -, next⟩ | ⟨stays, -⟩
  · have next : s'.epoch = s.epoch + 1 := next
    omega
  · exact (step?_change step).rank_le stays

/-- **What holds after a moment of an attempt** and is kept by the steps of the attempt, none of
which goes back, holds as long as the attempt lasts. -/
theorem Run.since_on {P : List Moment → Session → Prop} (run : Run config now ms s)
    (split : ms = past ++ m :: rest) (on : s.epoch = m.before.epoch)
    (here : P (past ++ [m]) m.after)
    (step : ∀ {ms s i s' effects}, Run config now ms s → s.step? i = some (s', effects) →
      s.epoch = m.before.epoch → s'.epoch = s.epoch → m.after.rank ≤ s.rank → P ms s →
        P (ms ++ [⟨s, i, s', effects⟩]) s') : P ms s := by
  have always := run.since (P := fun rest s => s.epoch = m.before.epoch → P (past ++ m :: rest) s)
    split (fun _ => here) ?_
  · rw [split]
    exact always on
  · intro rest s i s' effects run h stepped on'
    have earlier : m.before.epoch ≤ s.epoch :=
      run.traced.past m (List.mem_append_right _ List.mem_cons_self)
    have later := step?_epoch_le stepped
    have on : s.epoch = m.before.epoch := by omega
    have whole : past ++ m :: (rest ++ [⟨s, i, s', effects⟩]) =
        (past ++ m :: rest) ++ [⟨s, i, s', effects⟩] := by
      rw [List.append_assoc, List.cons_append]
    rw [whole]
    exact step run stepped on (on'.trans on.symm) (run.rank_after rfl on.symm) (h on)

/-! ## Connections that are up -/

/-- **The connection of an attempt is up** and its writes succeed: the attempt is not left, nobody
has cancelled the session, and no text was lost. -/
structure Up (ms : List Moment) (s : Session) (epoch : Nat) : Prop where
  current : s.epoch = epoch
  open_ : s.rank ≤ 4
  running : s.cancelled = false
  kept : ∀ m ∈ during ms epoch, ¬m.Loses

/-- What is up was up before. -/
theorem Up.before {epoch : Nat} (h : Up (ms ++ [⟨s, i, s', effects⟩]) s' epoch)
    (step : s.step? i = some (s', effects)) (same : s'.epoch = s.epoch) :
    Up ms s epoch ∧ ¬s.Loses i := by
  have on : s.epoch = epoch := same.symm.trans h.current
  have kept := h.kept
  rw [during_append_of_eq on] at kept
  obtain ⟨earlier, last⟩ := List.forall_mem_append.mp kept
  have further := step?_rank_le step same
  have running : s.cancelled = false := by
    apply Bool.eq_false_iff.mpr
    intro cancelled
    cases h.running.symm.trans ((step?_cancelled step).mpr (.inl cancelled))
  exact ⟨⟨on, Nat.le_trans further h.open_, running, earlier⟩, last _ (List.mem_singleton.mpr rfl)⟩

theorem not_parting_of_open (open_ : s.rank ≤ 4) : ¬s.stage.IsParting := by
  intro parting
  rcases isParting_iff.mp parting with stage | stage <;>
    simp [rank, stage, Stage.phase, Phase.rank] at open_

/-- As long as a connection is up, its writer is there. -/
theorem Run.writer_of_up {c : Connection} {epoch : Nat} (run : Run config now ms s)
    (up : Up ms s epoch) (there : s.connection = some c) : c.writerGone = false := by
  obtain rfl : s.epoch = epoch := up.current
  obtain ⟨last, conveyed, current, -⟩ := run.conveyed s.epoch up.kept
  rw [current rfl] at conveyed
  have orderly := conveyed.orderly c there
  apply Bool.eq_false_iff.mpr
  intro gone
  exact not_parting_of_open up.open_ (orderly.gone gone).1

/-- **A connection is cancelled** only when it is left, when a text is lost, or when its writer is
gone. -/
theorem Flow.keeps_uncancelled {c' : Connection} (flow : Flow s i l effects)
    (h : ∀ c, s.connection = some c → c.cancelled = false)
    (writer : ∀ c, s.connection = some c → c.writerGone = false) (kept : ¬s.Loses i)
    (open_ : ¬l.stage.IsParting) (there : l.connection = some c') : c'.cancelled = false := by
  cases flow with
  | stay | pass | idle | refuse | turn | instruct | takeOver | unreplied | fall | stuck
    | intrude => exact h c' there
  | connect =>
    cases there
    rfl
  | greet =>
    obtain ⟨c, here, rfl⟩ := Option.map_eq_some_iff.mp there
    have uncancelled := h c here
    exact uncancelled
  | reply _ here handed =>
    cases there
    exact handed.cancelled.trans (h _ here)
  | farewell _ _ _ _ _ after => rcases after with rfl | rfl <;> exact absurd trivial open_
  | part | letGo => exact absurd trivial open_
  | finish | attempt => cases there
  | write here taken =>
    cases there
    exact taken.cancelled.trans (h _ here)
  | exhaust before => exact absurd (isParting_iff.mpr (.inr before)) open_
  | wrote here wrote =>
    cases there
    have uncancelled := h _ here
    cases wrote with
    | written | closed => exact uncancelled
    | failed writing => exact absurd ⟨rfl, _, _, here, writing⟩ kept
  | beat here _ beat =>
    cases there
    have uncancelled := h _ here
    cases beat with
    | rest => exact uncancelled
    | ping handed => exact handed.cancelled.trans uncancelled
    | giveUp gone => cases gone.symm.trans (writer _ here)
  | silence here =>
    cases there
    have uncancelled := h _ here
    exact uncancelled

/-- **A connection that is up is not cancelled.** -/
theorem Run.uncancelled_of_up {epoch : Nat} (run : Run config now ms s) (up : Up ms s epoch) :
    ∀ c, s.connection = some c → c.cancelled = false := by
  obtain rfl : s.epoch = epoch := up.current
  induction run with
  | start =>
    obtain ⟨stage, line, -⟩ := start_line config now
    intro c there
    cases (congrArg Line.connection line).symm.trans there
  | @step ms s i s' effects run h ih =>
    intro c' there
    rcases (step?_change h).attempts_or with ⟨-, seeking, -⟩ | ⟨-, same⟩
    · cases there.symm.trans ((run.step h).wired.mpr (.inl seeking))
    · have same : s'.epoch = s.epoch := same
      rw [same] at up
      obtain ⟨before, kept⟩ := up.before h same
      exact (step?_flow h).keeps_uncancelled (ih before) (fun c => run.writer_of_up before) kept
        (not_parting_of_open up.open_) there

/-! ## The schedule -/

/-- **A connection is on schedule**: the next ping is due as many intervals after the start as pings
were handed over, and each of these was due by now. The frames are those that were written. -/
structure OnSchedule (interval start : Nat) (frames : List Outbound) (clock : Nat)
    (c : Connection) : Prop where
  next : c.keepalive.due? = some (start + pings (frames ++ c.unwritten) * interval)
  due : ∀ k < pings (frames ++ c.unwritten), start + k * interval ≤ clock

variable {interval start clock : Nat} {frames : List Outbound} {c c' : Connection}

/-- A ping that is handed over when it is due keeps the schedule. -/
theorem OnSchedule.ping {keepalive : Keepalive} {next : Nat}
    (h : OnSchedule interval start frames clock c) (was : c.keepalive.due? = some next)
    (due : next ≤ clock) (handed : c.Submitted (.text pingText) c')
    (later : keepalive.due? = some (next + interval)) :
    OnSchedule interval start frames clock { c' with keepalive } := by
  obtain rfl : next = _ := Option.some.inj (was.symm.trans h.next)
  have count : pings (frames ++ c'.unwritten) = pings (frames ++ c.unwritten) + 1 := by
    rw [handed.unwritten, pings_append, pings_append, pings_append, pings_ping, Nat.add_assoc]
  refine ⟨?_, fun k less => ?_⟩
  · show keepalive.due? = some (start + pings (frames ++ c'.unwritten) * interval)
    rw [later, count, Nat.succ_mul, Nat.add_assoc]
  · have less : k < pings (frames ++ c.unwritten) + 1 := count ▸ less
    rcases Nat.lt_succ_iff_lt_or_eq.mp less with earlier | rfl
    · exact h.due k earlier
    · exact due

/-- The schedule is kept by whatever leaves the keep-alive alone and adds no ping. -/
theorem OnSchedule.keep {more : List Outbound} {clock' : Nat}
    (h : OnSchedule interval start frames clock c) (same : c'.keepalive.due? = c.keepalive.due?)
    (count : pings more + pings c'.unwritten = pings c.unwritten) (later : clock ≤ clock') :
    OnSchedule interval start (frames ++ more) clock' c' := by
  have count : pings (frames ++ more ++ c'.unwritten) = pings (frames ++ c.unwritten) := by
    simp only [pings_append]
    omega
  refine ⟨?_, fun k less => Nat.le_trans (h.due k (count ▸ less)) later⟩
  rw [same, h.next, count]

/-- **Every step keeps the schedule**, as long as the connection is up. -/
theorem OnSchedule.step (h : OnSchedule s.config.pingInterval start frames s.clock c)
    (there : s.connection = some c) (there' : s'.connection = some c')
    (step : s.step? i = some (s', effects)) (wired : s.line.Wired) (low : 2 ≤ s.rank)
    (running : s.cancelled = false) (up : c.cancelled = false) (up' : c'.cancelled = false)
    (writer : c'.writerGone = false) :
    OnSchedule s.config.pingInterval start (frames ++ effects.filterMap Effect.frame?) s'.clock
      c' := by
  have later := step?_clock_le step
  have flow := step?_flow step
  by_cases turn : i = .ping
  · subst turn
    obtain ⟨c₀, here, goes⟩ := Option.bind_eq_some_iff.mp step
    obtain ⟨c₁, strikes, made⟩ := Option.map_eq_some_iff.mp goes
    cases there.symm.trans here
    cases made
    cases there'
    cases c.keepalive?_strikes strikes with
    | ping was due handed next =>
      rw [List.filterMap_nil, List.append_nil]
      exact h.ping was due handed next
    | settle same => exact h.keep same (Nat.zero_add _) (Nat.le_refl _)
    | giveUp => cases up'
  · have same := flow.keeps_keepalive turn low running there up there'
    exact h.keep (congrArg _ same) ((flow.moves wired).pings_eq turn there there' writer) later

/-! ## The handshake -/

/-- **The handshake of a connection is accepted** at a moment. -/
structure Moment.Accepts (m : Moment) (n : Nat) : Prop where
  greeting : m.before.stage = .greeting
  number : ∃ c, m.before.connection = some c ∧ c.number = n
  handshake : ∃ text id, m.input = .received (.text text) ∧ Names text id

theorem greet_of_names {text id : String} (named : Names text id) :
    s.greet text = s.announce id := by
  have read := handshakeId?_eq_some_iff.mpr named
  unfold handshakeId? at read
  unfold greet
  split at read
  · rename_i frame decoded
    simp only [decoded, read]
  · cases read

theorem Moment.Accepts.announces (accepts : m.Accepts n)
    (step : m.before.step? m.input = some (m.after, m.effects)) :
    ∃ id, (m.after, m.effects) = m.before.announce id := by
  obtain ⟨text, id, input, named⟩ := accepts.handshake
  rw [input] at step
  refine ⟨id, ?_⟩
  rw [← greet_of_names named]
  simpa only [step?, received?, accepts.greeting, Option.some.injEq] using step.symm

theorem Moment.Accepts.announced (accepts : m.Accepts n)
    (step : m.before.step? m.input = some (m.after, m.effects)) :
    2 ≤ m.after.rank ∧ m.after.epoch = m.before.epoch := by
  obtain ⟨id, announced⟩ := accepts.announces step
  rw [(Prod.mk.inj announced).1]
  exact ⟨Nat.le_refl _, rfl⟩

/-- Nothing was heard before on the attempt. -/
theorem Run.ungreeted (run : Run config now past s) (greeting : s.stage = .greeting) (id : String) :
    ¬Greeted past s.epoch id := by
  rintro ⟨text, heard, -⟩
  have none := run.traced.heard
  have phase : s.core.phase = .greeting := by
    show s.stage.phase = _
    rw [greeting]
    rfl
  rw [Core.Heard, phase] at none
  cases heard.symm.trans none.1

/-- Before the handshake there are no pings, neither written nor to be written. -/
theorem Run.no_pings (run : Run config now past s) (greeting : s.stage = .greeting)
    (there : s.connection = some c) :
    pings (written (during past s.epoch)) = 0 ∧ pings c.unwritten = 0 := by
  have ungreeted := run.ungreeted greeting
  constructor
  · apply pings_of_not_mem
    intro mem
    cases run.textless ungreeted _ mem
  · apply pings_of_not_mem
    intro mem
    have unheard : handshake? past s.epoch = none := by
      apply Option.eq_none_iff_forall_ne_some.mpr
      intro id named
      exact ungreeted id (handshake?_eq_some_iff.mp named)
    cases (run.mute unheard c there).silent _ (List.mem_append_right _ mem)

/-- The schedule starts with the handshake. -/
theorem Run.starts (run : Run config now past m.before)
    (step : m.before.step? m.input = some (m.after, m.effects)) (accepts : m.Accepts n)
    (positive : 0 < config.pingInterval) (there : m.after.connection = some c) :
    OnSchedule config.pingInterval m.before.clock
      (written (during (past ++ [m]) m.before.epoch)) m.after.clock c := by
  obtain ⟨id, announced⟩ := accepts.announces step
  obtain ⟨after, effects⟩ := Prod.mk.inj announced
  obtain ⟨c₀, here, -⟩ := accepts.number
  obtain ⟨before, unwritten⟩ := run.no_pings accepts.greeting here
  have told : m.before.config = config := run.counted.config
  have made : c = c₀.startKeepalive m.before.clock config.pingInterval := by
    rw [after] at there
    rw [← told]
    simpa only [announce, here, Option.map_some, Option.some.injEq] using there.symm
  have count : pings (written (during (past ++ [m]) m.before.epoch) ++ c.unwritten) = 0 := by
    have nothing : m.effects.filterMap Effect.frame? = [] := by
      rw [effects]
      rfl
    rw [during_append_of_eq rfl, written_append, written_singleton, nothing, List.append_nil,
      pings_append, before, Nat.zero_add, made]
    exact unwritten
  refine ⟨?_, fun k less => ?_⟩
  · rw [count, made, Connection.startKeepalive, if_neg (Nat.ne_of_gt positive), Nat.zero_mul]
    rfl
  · rw [count] at less
    cases less

/-- Between its handshake and its end an attempt has a connection. -/
theorem Run.exists_connection (run : Run config now ms s) (low : 2 ≤ s.rank)
    (open_ : s.rank ≤ 4) : ∃ c, s.connection = some c := by
  apply Option.ne_none_iff_exists'.mp
  intro none
  rcases run.wired.mp none with phase | phase <;>
    simp [rank, show s.stage.phase = _ from phase, Phase.rank] at low open_

/-- **From the handshake on a connection is on schedule**, as long as it is up. -/
theorem Run.onSchedule (run : Run config now ms s) (split : ms = past ++ m :: rest)
    (accepts : m.Accepts n) (positive : 0 < config.pingInterval)
    (up : Up ms s m.before.epoch) (there : s.connection = some c) :
    OnSchedule config.pingInterval m.before.clock (written (during ms m.before.epoch)) s.clock
      c := by
  obtain ⟨before, accepted⟩ := run.moment split
  have announced : 2 ≤ m.after.rank := (accepts.announced accepted).1
  refine run.since_on (P := fun ms s => ∀ c, Up ms s m.before.epoch → s.connection = some c →
    OnSchedule config.pingInterval m.before.clock (written (during ms m.before.epoch)) s.clock c)
    split up.current ?_ ?_ c up there
  · intro c _ there
    exact before.starts accepted accepts positive there
  · intro ms s i s' effects run step on same further h c' up' there'
    obtain ⟨up, -⟩ := up'.before step same
    have low : 2 ≤ s.rank := Nat.le_trans announced further
    obtain ⟨c, there⟩ := run.exists_connection low up.open_
    have told : s.config = config := run.counted.config
    rw [during_append_of_eq on, written_append, written_singleton, ← told]
    exact OnSchedule.step (told ▸ h c up there) there there' step run.wired low up.running
      (run.uncancelled_of_up up c there) ((run.step step).uncancelled_of_up up' c' there')
      ((run.step step).writer_of_up up' there')

end RemotePlayback.Session
