import RemotePlayback.Proofs.Session.Parting

/-! An attempt that is over comes to its end.

To close a connection the session waits for room in the queue, for what is in the queue to be
written, and for the keep-alive to end. None of this can get stuck: as long as writes succeed, the
session, its writer and its keep-alive can always go on, and each turn leaves less to do. -/

namespace RemotePlayback.Session

open Playback Dealer

variable {config : Config} {now : Int64} {ms past rest : List Moment} {m : Moment}
  {s s' : Session} {i : Input} {l : Line} {effects : List Effect} {epoch : Nat}

/-! ## What is left to do on a connection -/

/-- How many turns the keep-alive needs to end. -/
def Keepalive.left : Keepalive → Nat
  | .absent | .gone => 0
  | .idle _ => 1
  | .sending _ => 2

namespace Connection

variable {c c' : Connection} {f : Outbound}

/-- **What is left to do** until the writer has ended: each frame is taken and written, the
keep-alive ends, and then the writer does. -/
def left (c : Connection) : Nat :=
  if c.writerGone then 0
  else 2 * c.unwritten.length + c.writing.toList.length + c.keepalive.left + 1

theorem left_of_gone (gone : c.writerGone = true) : c.left = 0 := if_pos gone

theorem left_of_there (there : c.writerGone = false) :
    c.left = 2 * c.unwritten.length + c.writing.toList.length + c.keepalive.left + 1 := by
  rw [left, there]
  exact if_neg nofun

/-- A frame that is being written can be written. -/
theorem exists_wrote (there : c.writerGone = false) (writing : c.writing = some f) :
    ∃ c', c.wrote? true = some c' ∧ c'.left < c.left := by
  rw [left_of_there there, writing, Option.toList_some, List.length_singleton]
  cases f with
  | text t =>
    refine ⟨{ c with writing := none }, by rw [wrote?, writing]; rfl, ?_⟩
    rw [left_of_there (c := { c with writing := none }) there]
    show 2 * c.unwritten.length + 0 + c.keepalive.left + 1 < _
    omega
  | close reason detail =>
    refine ⟨c.endWriter, by rw [wrote?, writing], ?_⟩
    rw [left_of_gone rfl]
    omega

/-- A frame in the queue can be taken. -/
theorem exists_taken (there : c.writerGone = false) (idle : c.writing = none)
    (more : c.queue ≠ []) : ∃ f c', c.take? = some (f, c') ∧ c'.left < c.left := by
  obtain ⟨f, queue, eq⟩ := List.exists_cons_of_ne_nil more
  obtain ⟨c', took⟩ : ∃ c', c.take? = some (f, c') := by simp [take?, there, idle, eq]
  have taken := take?_taken took
  refine ⟨f, c', took, ?_⟩
  rw [left_of_there there, left_of_there taken.gone, taken.unwritten, taken.writing, idle,
    taken.keepalive]
  simp only [List.length_cons, Option.toList_some, Option.toList_none, List.length_nil]
  omega

/-- A keep-alive with fewer turns to go leaves less to do. -/
theorem left_keepalive {keepalive : Keepalive} (there : c.writerGone = false)
    (less : keepalive.left < c.keepalive.left) : { c with keepalive }.left < c.left := by
  rw [left_of_there there, left_of_there (c := { c with keepalive }) there]
  show 2 * c.unwritten.length + c.writing.toList.length + keepalive.left + 1 < _
  omega

/-- The keep-alive of a connection that is let go goes on when its ping is out, and can end. -/
theorem exists_beat (clock interval : Nat) (stopped : Bool) (there : c.writerGone = false)
    (released : c.cancelled = true) (empty : c.waiting = []) (beats : c.hasKeepalive = true) :
    ∃ c', (c.keepalive? clock interval = some c' ∨ c.endKeepalive? stopped = some c') ∧
      c'.left < c.left := by
  unfold hasKeepalive at beats
  cases keepalive : c.keepalive with
  | absent | gone =>
    rw [keepalive] at beats
    cases beats
  | idle next =>
    refine ⟨{ c with keepalive := .gone }, .inr ?_, left_keepalive there ?_⟩
    · simp [endKeepalive?, keepalive, released]
    · rw [keepalive]
      exact Nat.lt_succ_self 0
  | sending next =>
    refine ⟨{ c with keepalive := .idle next }, .inl ?_, left_keepalive there ?_⟩
    · simp [keepalive?, keepalive, isWaiting, empty]
    · rw [keepalive]
      exact Nat.lt_succ_self 1

/-- When nothing is left to write and there is no keep-alive, the writer can end. -/
theorem exists_exhausted (there : c.writerGone = false) (idle : c.writing = none)
    (empty : c.queue = []) (silent : c.hasKeepalive = false) :
    c.take? = none ∧ c.exhausted? = some c.endWriter ∧ c.endWriter.left < c.left := by
  refine ⟨by simp [take?, there, idle, empty], by simp [exhausted?, there, idle, empty, silent], ?_⟩
  rw [left_of_gone rfl, left_of_there there]
  exact Nat.succ_pos _

end Connection

/-! ## Connections that are let go -/

/-- A connection that is let go is cancelled. -/
def Line.Released (l : Line) : Prop :=
  ∀ c, l.connection = some c → l.stage = .draining → c.cancelled = true

theorem Flow.released (flow : Flow s i l effects) (h : s.line.Released) : l.Released := by
  cases flow with
  | stay | pass => exact h
  | idle before same =>
    rintro c - rfl
    rcases before with before | before <;> cases same.trans before
  | turn _ after =>
    rintro c - rfl
    exact after.elim
  | connect | greet | refuse | instruct | takeOver | unreplied | fall | stuck | intrude =>
    rintro c - ⟨⟩
  | reply _ _ _ after =>
    rintro c - rfl
    rcases after with after | after <;> cases after
  | farewell _ _ _ _ _ _ released =>
    rintro c ⟨⟩ stage
    exact released stage
  | part | letGo =>
    rintro c ⟨⟩ -
    rfl
  | finish | attempt =>
    intro c there
    cases there
  | write there taken =>
    rintro c' ⟨⟩ stage
    exact taken.cancelled.trans (h _ there stage)
  | exhaust _ there =>
    rintro c' ⟨⟩ stage
    have released := h _ there stage
    exact released
  | wrote there wrote =>
    rintro c' ⟨⟩ stage
    have released := h _ there stage
    cases wrote with
    | written | closed => exact released
    | failed => rfl
  | beat there _ beat =>
    rintro c' ⟨⟩ stage
    have released := h _ there stage
    cases beat with
    | rest => exact released
    | ping handed => exact handed.cancelled.trans released
    | giveUp => rfl
  | silence there =>
    rintro c' ⟨⟩ stage
    have released := h _ there stage
    exact released

theorem Run.released (run : Run config now ms s) : s.line.Released := by
  apply run.line_induction
  · intro stage _ c there
    cases there
  · exact Flow.released

/-! ## The turns that close a connection -/

/-- The turns of the session, of its writer and of its keep-alive, and writes that succeed. -/
def Input.IsWork : Input → Prop
  | .proceed | .write | .wrote true | .ping | .endKeepalive => True
  | _ => False

/-- **What is left to do** until a connection is closed. -/
def left (s : Session) : Nat :=
  (s.connection.map Connection.left).getD 0 + match s.stage with
    | .closing => 1
    | _ => 0

theorem left_lt {c c' : Connection} (there : s.connection = some c) (less : c'.left < c.left) :
    left { s with connection := some c' } < s.left := by
  rw [left, left, there]
  exact Nat.add_lt_add_right less _

/-- To let a connection go is to leave less to do. -/
theorem left_letGo {c : Connection} (there : s.connection = some c) (stage : s.stage = .closing) :
    (s.letGo c).1.left < s.left := by
  rw [left, left, there, stage]
  exact Nat.lt_succ_of_le (Nat.le_refl _)

/-- **Some turn is possible** that closes the connection or leaves less to do. -/
def CanWork (s : Session) : Prop :=
  ∃ i s' effects, i.IsWork ∧ s.step? i = some (s', effects) ∧
    (s'.stage.phase = .down ∨ s'.stage.IsParting ∧ s'.left < s.left)

section CanWork

variable {c : Connection}

/-- The connection is let go once the closing frame does not wait any more, or in vain. -/
theorem canWork_of_handed (there : s.connection = some c) (stage : s.stage = .closing)
    (free : !c.isWaiting .session ∨ c.writerGone) : s.CanWork := by
  refine ⟨.proceed, (s.letGo c).1, (s.letGo c).2, trivial, ?_, .inr ⟨trivial, ?_⟩⟩
  · simp only [step?, proceed?, stage, there, if_pos free]
  · exact left_letGo there stage

theorem canWork_of_gone (there : s.connection = some c) (parting : s.stage.IsParting)
    (gone : c.writerGone = true) : s.CanWork := by
  rcases isParting_iff.mp parting with closing | draining
  · exact canWork_of_handed there closing (.inr gone)
  · refine ⟨.proceed, s.finish.1, s.finish.2, trivial, ?_, .inl (finish_phase s)⟩
    simp only [step?, proceed?, draining, there, if_pos gone]

theorem canWork_of_writing {f : Outbound} (there : s.connection = some c)
    (parting : s.stage.IsParting) (open_ : c.writerGone = false) (writing : c.writing = some f) :
    s.CanWork := by
  obtain ⟨c', wrote, less⟩ := c.exists_wrote open_ writing
  refine ⟨.wrote true, { s with connection := some c' }, [], trivial, ?_, .inr ⟨parting, ?_⟩⟩
  · simp only [step?, there, Option.bind_some, wrote, Option.map_some]
  · exact left_lt there less

theorem canWork_of_queue (there : s.connection = some c) (parting : s.stage.IsParting)
    (open_ : c.writerGone = false) (idle : c.writing = none) (more : c.queue ≠ []) :
    s.CanWork := by
  obtain ⟨f, c', took, less⟩ := c.exists_taken open_ idle more
  refine ⟨.write, { s with connection := some c' }, [.write c'.number f], trivial, ?_,
    .inr ⟨parting, ?_⟩⟩
  · simp only [step?, write?, there, Option.bind_some, took]
  · exact left_lt there less

/-- Once everything is written, the keep-alive and then the writer end. -/
theorem canWork_of_written (there : s.connection = some c) (draining : s.stage = .draining)
    (open_ : c.writerGone = false) (idle : c.writing = none) (empty : c.queue = [])
    (waiting : c.waiting = []) (released : c.cancelled = true) : s.CanWork := by
  have parting : s.stage.IsParting := isParting_iff.mpr (.inr draining)
  cases beats : c.hasKeepalive with
  | true =>
    obtain ⟨c', beat | ended, less⟩ :=
      c.exists_beat s.clock s.config.pingInterval s.cancelled open_ released waiting beats
    · refine ⟨.ping, { s with connection := some c' }, [], trivial, ?_, .inr ⟨parting, ?_⟩⟩
      · simp only [step?, there, Option.bind_some, beat, Option.map_some]
      · exact left_lt there less
    · refine ⟨.endKeepalive, { s with connection := some c' }, [], trivial, ?_, .inr ⟨parting, ?_⟩⟩
      · simp only [step?, there, Option.bind_some, ended, Option.map_some]
      · exact left_lt there less
  | false =>
    obtain ⟨none, ended, less⟩ := c.exists_exhausted open_ idle empty beats
    refine ⟨.write, { s with connection := some c.endWriter }, [], trivial, ?_,
      .inr ⟨parting, ?_⟩⟩
    · simp only [step?, write?, there, Option.bind_some, none, if_pos draining, ended,
        Option.map_some]
    · exact left_lt there less

end CanWork

/-- **An attempt that parts cannot get stuck.** -/
theorem canWork_of_parting (wired : s.line.Wired) (packed : s.line.Packed)
    (released : s.line.Released) (parting : s.stage.IsParting) : s.CanWork := by
  obtain ⟨c, there⟩ : ∃ c, s.connection = some c :=
    Option.ne_none_iff_exists'.mp fun none => not_away_of_parting parting (wired.mp none)
  by_cases gone : c.writerGone = true
  · exact canWork_of_gone there parting gone
  · -- what can be done next: a frame is written, or taken, or there is none left
    have open_ : c.writerGone = false := by simpa using gone
    cases writing : c.writing with
    | some f => exact canWork_of_writing there parting open_ writing
    | none =>
      by_cases empty : c.queue = []
      · have waiting := (packed c there open_).waiting_of_empty empty
        rcases isParting_iff.mp parting with closing | draining
        · refine canWork_of_handed there closing (.inl ?_)
          simp [Connection.isWaiting, waiting]
        · exact canWork_of_written there draining open_ writing empty waiting
            (released c there draining)
      · exact canWork_of_queue there parting open_ writing empty

/-! ## The end -/

/-- An attempt that parts can be brought to its end. -/
theorem Run.closes_of_parting (run : Run config now ms s) (parting : s.stage.IsParting) :
    ∃ more s', Run config now (ms ++ more) s' ∧ (∀ m ∈ more, m.input.IsWork) ∧
      s'.epoch = s.epoch ∧ s'.stage.phase = .down := by
  induction left : s.left using Nat.strongRecOn generalizing ms s with
  | ind n ih =>
    obtain ⟨i, s', effects, work, step, goes⟩ :=
      canWork_of_parting run.wired run.packed run.released parting
    have next := run.step step
    have epoch := step?_epoch_eq step fun down => not_away_of_parting parting (.inr down)
    rcases goes with down | ⟨parting', less⟩
    · exact ⟨[⟨s, i, s', effects⟩], s', next, List.forall_mem_singleton.mpr work, epoch, down⟩
    · obtain ⟨more, last, run', works, epoch', down⟩ := ih _ (left ▸ less) next parting' rfl
      refine ⟨⟨s, i, s', effects⟩ :: more, last, ?_, ?_, epoch'.trans epoch, down⟩
      · rwa [List.append_assoc] at run'
      · exact List.forall_mem_cons.mpr ⟨work, works⟩

/-- **An attempt that is over can always be brought to its end**, by the turns of the session and
its connection alone. -/
theorem Run.closes (run : Run config now ms s) (late : 5 ≤ s.rank) :
    ∃ more s', Run config now (ms ++ more) s' ∧ (∀ m ∈ more, m.input.IsWork) ∧
      s'.epoch = s.epoch ∧ s'.stage.phase = .down := by
  cases stage : s.stage with
  | closing | draining => exact run.closes_of_parting (by rw [stage]; trivial)
  | sleeping | stopped =>
    refine ⟨[], s, by rwa [List.append_nil], List.forall_mem_nil _, rfl, ?_⟩
    rw [stage]
    rfl
  | ending outcome =>
    obtain ⟨s', effects, step⟩ : ∃ s' effects, s.step? .proceed = some (s', effects) :=
      ⟨(s.close outcome).1, (s.close outcome).2, by simp only [step?, proceed?, stage]⟩
    have parting : s'.stage.IsParting :=
      (((step?_flow step).of_ending run.wired stage).resolve_left fun stays => stays.1 rfl).2
    have epoch := step?_epoch_eq step (by rw [stage]; exact Phase.noConfusion)
    obtain ⟨more, last, run', works, epoch', down⟩ := (run.step step).closes_of_parting parting
    refine ⟨⟨s, .proceed, s', effects⟩ :: more, last, ?_, ?_, epoch'.trans epoch, down⟩
    · rwa [List.append_assoc] at run'
    · exact List.forall_mem_cons.mpr ⟨trivial, works⟩
  | resolving | authorizing | connecting | greeting | announcing | adopting | reading | delivering
    | replying => simp [rank, stage, Stage.phase, Phase.rank] at late

/-- **An attempt can be brought to its end** by the turns of the session and its connection alone.
-/
def Closable (config : Config) (now : Int64) (ms : List Moment) (epoch : Nat) : Prop :=
  ∃ more s', Run config now (ms ++ more) s' ∧ (∀ m ∈ more, m.input.IsWork) ∧ s'.Over epoch

/-- An attempt that has come to a failure can be brought to its end at any later moment. -/
theorem Run.closable (run : Run config now ms s) (split : ms = past ++ m :: rest)
    (late : 5 ≤ m.after.rank) : Closable config now ms m.before.epoch := by
  by_cases on : m.before.epoch = s.epoch
  · have late := Nat.le_trans late (run.rank_after split on)
    obtain ⟨more, s', run', works, same, down⟩ := run.closes late
    exact ⟨more, s', run', works, .inr ⟨on.trans same.symm, down⟩⟩
  · have mem : m ∈ ms := by rw [split]; exact List.mem_append_right _ List.mem_cons_self
    have before : m.before.epoch ≤ s.epoch := run.traced.past m mem
    refine ⟨[], s, by rwa [List.append_nil], List.forall_mem_nil _, .inl ?_⟩
    omega

end RemotePlayback.Session
