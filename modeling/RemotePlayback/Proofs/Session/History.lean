import RemotePlayback.Proofs.Session.Placement

/-! A session and its history.

The counters, the link and the pending calls of a session are told by what happened so far: the
number of attempts and of publications, the handshake of the current attempt, the answer to its
announcement, and the reports that went out. Each part of this is kept by every change, given that
link and snapshot are in place. -/

namespace RemotePlayback.Session

open Playback Dealer

variable {config : Config} {now : Int64} {ms : List Moment} {m : Moment} {s s' : Session}
  {k k' : Core} {i : Input} {effects : List Effect}

/-! ## Counters -/

/-- **The counters tell the history**: how many attempts and publications there were, and which
publication was the last. -/
structure Counted (config : Config) (ms : List Moment) (k : Core) : Prop where
  config : k.config = config
  epoch : k.epoch = attempts ms
  count : k.published = (publications ms).length
  revs : (publications ms).map (·.rev) = List.range' 1 (publications ms).length
  last : k.snapshot = (publications ms).getLast?.getD {}

theorem beginsAttempt_iff :
    m.beginsAttempt ↔ m.before.core.phase = .down ∧ m.after.core.phase = .seeking := by
  unfold Moment.beginsAttempt core
  split <;> simp_all

theorem Counted.start (config : Config) (now : Int64) :
    Counted config [] (start config now).1.core := by
  rw [Session.start, attempt_core]
  exact ⟨rfl, rfl, rfl, rfl, rfl⟩

theorem Counted.step (h : Counted config ms s.core) (change : Change s.core i s'.core effects) :
    Counted config (ms ++ [⟨s, i, s', effects⟩]) s'.core := by
  have config := change.config.trans h.config
  have epochs : s'.core.epoch = attempts (ms ++ [⟨s, i, s', effects⟩]) := by
    rw [attempts_append, ← h.epoch]
    rcases change.attempts_or with ⟨down, seeking, next⟩ | ⟨stays, same⟩
    · rw [if_pos (beginsAttempt_iff.mpr ⟨down, seeking⟩), next]
    · rw [if_neg (mt beginsAttempt_iff.mp stays), same, Nat.add_zero]
  rcases change.publishes_or with ⟨none, snapshot, count⟩ | ⟨c, epoch, -, rfl, snapshot, count⟩
  · have same : publications (ms ++ [⟨s, i, s', effects⟩]) = publications ms := by
      rw [publications_append, Moment.publications, none, List.append_nil]
    refine ⟨config, epochs, ?_, ?_, ?_⟩
    · rw [same, count, h.count]
    · rw [same, h.revs]
    · rw [same, snapshot, h.last]
  · have more : publications (ms ++ [⟨s, i, s', [.publish (s.core.next c epoch)]⟩]) =
        publications ms ++ [s.core.next c epoch] := publications_append ms _
    refine ⟨config, epochs, ?_, ?_, ?_⟩
    · rw [more, List.length_append, count, h.count, List.length_singleton]
    · have rev : (s.core.next c epoch).rev = 1 + (publications ms).length := by
        rw [← h.count, Nat.add_comm]
        rfl
      rw [more, List.map_append, h.revs, List.length_append, List.length_singleton,
        List.range'_1_concat, List.map_singleton, rev]
    · rw [more, List.getLast?_append, snapshot]
      rfl

theorem Run.counted (run : Run config now ms s) : Counted config ms s.core := by
  induction run with
  | start => exact Counted.start config now
  | step run h ih => exact ih.step (step?_change h)

/-- Once something was seen on the current attempt, something was published with its epoch. -/
theorem Counted.exists_firstPublication? (h : Counted config ms k) (placed : k.Placed)
    (seen : k.snapshot.epoch = k.epoch) :
    ∃ snapshot, firstPublication? ms k.epoch = some snapshot := by
  refine Option.isSome_iff_exists.mp (List.find?_isSome.mpr ⟨k.snapshot, ?_, by simp [seen]⟩)
  rw [h.last]
  rcases List.eq_nil_or_concat (publications ms) with none | ⟨rest, snapshot, some⟩
  · have zero : k.snapshot.epoch = 0 := by rw [h.last, none]; rfl
    have begun := placed.begun
    omega
  · rw [some, List.concat_eq_append, List.getLast?_append]
    exact List.mem_append_right _ (List.mem_singleton.mpr rfl)

/-! ## What was heard -/

/-- What was heard so far on the current attempt, in each phase. -/
def Core.Heard (ms : List Moment) (k : Core) : Prop :=
  match k.phase with
  | .seeking | .greeting => heard? ms k.epoch = none ∧ announcement? ms k.epoch = none
  | .announcing id => handshake? ms k.epoch = some id ∧ announcement? ms k.epoch = none
  | .adopting cluster => announcement? ms k.epoch = some cluster
  | .live | .spent | .down => True

/-- Inputs that bring no news do not change what was heard. -/
theorem Core.Heard.keep (h : k.Heard ms) (phase : k'.phase = k.phase) (epoch : k'.epoch = k.epoch)
    (text : m.input.text? = none ∨ k.phase = .live) (answer : m.input.announcement? = none) :
    k'.Heard (ms ++ [m]) := by
  unfold Core.Heard at h ⊢
  rw [phase, epoch]
  split at h
  case h_1 eq | h_2 eq =>
    -- a frame that is read changes nothing only once link and snapshot are there
    have silent : m.input.text? = none := text.resolve_right (by rw [eq]; nofun)
    exact ⟨firstOn?_append_of_none h.1 silent, firstOn?_append_of_none h.2 answer⟩
  case h_3 => exact ⟨handshake?_append m h.1, firstOn?_append_of_none h.2 answer⟩
  case h_4 => exact firstOn?_append_of_some m h
  case h_5 | h_6 | h_7 => trivial

/-- What was heard is known after each change. -/
theorem Core.Heard.change (h : k.Heard ms) (past : ∀ m ∈ ms, m.before.epoch ≤ k.epoch)
    (on : m.before.epoch = k.epoch) (change : Change k m.input k' effects) :
    k'.Heard (ms ++ [m]) := by
  generalize input : m.input = i at change
  cases change with
  | quiet text answer => exact h.keep rfl rfl (input ▸ text) (input ▸ answer)
  | report | drop | answer | post =>
    exact h.keep rfl rfl (.inl (by rw [input]; rfl)) (by rw [input]; rfl)
  | push phase => exact h.keep rfl rfl (.inr phase) (by rw [input]; rfl)
  | connect phase =>
    rw [Core.Heard, phase] at h
    exact ⟨firstOn?_append_of_none h.1 (by rw [input]; rfl),
      firstOn?_append_of_none h.2 (by rw [input]; rfl)⟩
  | @greet text frame id _ phase read handshake =>
    rw [Core.Heard, phase] at h
    have first : heard? (ms ++ [m]) k.epoch = some text := by
      rw [heard?, firstOn?_append, ← heard?, h.1, if_pos on, input]
      rfl
    have named : handshakeId? text = some id := by rw [handshakeId?, read, ← handshake]
    refine ⟨?_, firstOn?_append_of_none h.2 (by rw [input]; rfl)⟩
    rw [handshake?, first, Option.bind_some, named]
  | @announced id cluster phase =>
    rw [Core.Heard, phase] at h
    show announcement? (ms ++ [m]) k.epoch = some cluster
    rw [announcement?, firstOn?_append, ← announcement?, h.2, if_pos on, input]
    rfl
  | adopt | fall | finish => trivial
  | attempt =>
    -- all that was heard so far was heard on earlier attempts
    have earlier : ∀ m' ∈ ms ++ [m], m'.before.epoch < k.epoch + 1 :=
      forall_mem_concat (fun m' mem => Nat.lt_succ_of_le (past m' mem)) (on ▸ Nat.lt_succ_self _)
    exact ⟨firstOn?_eq_none earlier, firstOn?_eq_none earlier⟩

/-! ## Links and reports -/

/-- **The link and the pending calls tell the history**: the link has the id of the handshake of the
current attempt, and each call went out on the attempt of its link. -/
structure Traced (ms : List Moment) (k : Core) : Prop where
  past : ∀ m ∈ ms, m.before.epoch ≤ k.epoch
  heard : k.Heard ms
  linked : ∀ link, k.link = some link → handshake? ms k.epoch = some link.connectionId
  issued : ∀ call ∈ k.calls, ∃ m ∈ ms, m.before.epoch = call.link.epoch ∧
    ∃ body, .report (some call.number) call.link.connectionId body ∈ m.effects

theorem Traced.start (config : Config) (now : Int64) : Traced [] (start config now).1.core := by
  rw [Session.start, attempt_core]
  refine ⟨fun m mem => ?_, ⟨rfl, rfl⟩, fun link there => ?_, fun call mem => ?_⟩
  · cases mem
  · cases there
  · cases mem

/-- The link keeps the id of the handshake. -/
theorem Traced.linked_change (h : Traced ms k) (placed : k.Placed)
    (change : Change k i k' effects) {link : Link} (there : k'.link = some link) :
    handshake? (ms ++ [m]) k'.epoch = some link.connectionId := by
  cases change with
  | quiet | connect | greet | adopt | push | fall | report | drop | answer | post =>
    exact handshake?_append m (h.linked link there)
  | announced phase =>
    have heard := h.heard
    rw [Core.Heard, phase] at heard
    rw [← Option.some.inj there]
    exact handshake?_append m heard.1
  | finish => cases there
  | attempt phase =>
    -- the epoch changes, but there is no link between two attempts
    have here := placed.phase
    rw [Core.InPhase, phase] at here
    cases here.1.symm.trans there

theorem Traced.step (h : Traced ms s.core) (placed : s.core.Placed)
    (change : Change s.core i s'.core effects) :
    Traced (ms ++ [⟨s, i, s', effects⟩]) s'.core := by
  have later : s.core.epoch ≤ s'.core.epoch := by
    rcases change.attempts_or with ⟨-, -, next⟩ | ⟨-, same⟩ <;> omega
  have issued : ∀ call ∈ s.core.calls, ∃ m ∈ ms ++ [⟨s, i, s', effects⟩],
      m.before.epoch = call.link.epoch ∧
        ∃ body, .report (some call.number) call.link.connectionId body ∈ m.effects :=
    fun call mem => by
      obtain ⟨m, past, told⟩ := h.issued call mem
      exact ⟨m, List.mem_append_left _ past, told⟩
  refine ⟨forall_mem_concat (fun m mem => Nat.le_trans (h.past m mem) later) later,
    h.heard.change h.past rfl change, fun link there => h.linked_change placed change there, ?_⟩
  rcases change.calls_or with ⟨-, sublist⟩ | ⟨link, linked, -, ⟨body, rfl⟩, -, calls⟩
  · exact fun call mem => issued call (sublist.subset mem)
  · rw [calls]
    refine forall_mem_concat issued ⟨_, List.mem_append_right _ (List.mem_singleton.mpr rfl), ?_⟩
    exact ⟨(placed.link_epoch linked).symm, body, List.mem_singleton.mpr rfl⟩

theorem Run.traced (run : Run config now ms s) : Traced ms s.core := by
  induction run with
  | start => exact Traced.start config now
  | step run h ih => exact ih.step run.placed (step?_change h)

end RemotePlayback.Session
