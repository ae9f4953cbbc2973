import RemotePlayback.Proofs.Session.Conversation
import RemotePlayback.Proofs.Session.Publication

/-! What the local player is told.

Each request that asks for something tells it to the local player, and a transfer is followed by the
instruction to go on with what is playing by then. `instructions` reads this off the frames of an
attempt and the snapshots at the moments at which transfers were dealt with. A transfer leaves the
list open until then, and no frame is read meanwhile; whatever comes before the last open transfer
no longer depends on what follows. -/

namespace RemotePlayback.Session

open Playback Dealer

variable {config : Config} {now : Int64} {ms past : List Moment} {m : Moment} {s s' : Session}
  {i : Input} {l : Line} {effects : List Effect} {event : Event}

/-! ## What is asked of the local player -/

/-- What the request that a step reads asks of the local player. -/
def asks? (s : Session) (i : Input) : Option Event := ((s.read? i).bind request?).bind (·.2)

/-- Whether the local player is done with an instruction. -/
def Input.dealt : Input → Bool
  | .delivered _ => true
  | _ => false

/-- The instruction to go on with what is playing, if anything is. -/
def resumption (s : Session) : List Event := (s.snapshot.takeover? s.now).toList.map .play

/-- **What follows an instruction**: after a transfer, the instruction to go on with what is playing
when the local player is done with it. -/
def followUp (event : Event) (later : List Moment) : List Event :=
  if event = .transfer then
    match later.find? (·.input.dealt) with
    | some m => m.before.resumption
    | none => []
  else []

/-- **What the local player is to be told**, as the frames say that are read. -/
def instructions : List Moment → List Event
  | [] => []
  | m :: later =>
    match m.before.asks? m.input with
    | some event => event :: (followUp event later ++ instructions later)
    | none => instructions later

/-- **What the local player is told.** -/
def told (ms : List Moment) : List Event :=
  ms.flatMap fun m => m.effects.filterMap Effect.event?

theorem told_append (ms more : List Moment) : told (ms ++ more) = told ms ++ told more :=
  List.flatMap_append

theorem instruction?_eq_some_iff {payload : Bytes} :
    instruction? payload = some event ↔
      ∃ request, Request.decode payload = .ok request ∧ request.event = .ok (some event) := by
  unfold instruction?
  constructor
  · intro h
    split at h
    · rename_i request decoded
      split at h
      · rename_i found
        exact ⟨request, decoded, h ▸ found⟩
      · cases h
    · cases h
  · rintro ⟨request, decoded, found⟩
    rw [decoded]
    dsimp only
    rw [found]

/-- What makes a step ask for something. -/
theorem asks?_eq_some_iff : s.asks? i = some event ↔
    ∃ text key uri headers payload request, s.stage = .reading ∧ i = .received (.text text) ∧
      Frame.read text = .ok (.request key uri headers payload) ∧
      Request.decode payload = .ok request ∧ request.event = .ok (some event) := by
  constructor
  · intro asks
    obtain ⟨⟨key, instruction⟩, found, rfl⟩ := Option.bind_eq_some_iff.mp asks
    obtain ⟨text, read, request⟩ := Option.bind_eq_some_iff.mp found
    unfold read? at read
    split at read
    · rename_i stage
      cases read
      unfold request? at request
      split at request
      · rename_i read
        obtain ⟨rfl, asked⟩ := Prod.mk.inj (Option.some.inj request)
        obtain ⟨r, decoded, made⟩ := instruction?_eq_some_iff.mp asked
        exact ⟨text, _, _, _, _, r, stage, rfl, read, decoded, made⟩
      · cases request
    · cases read
  · rintro ⟨text, key, uri, headers, payload, request, stage, rfl, read, decoded, made⟩
    have asked := instruction?_eq_some_iff.mpr ⟨request, decoded, made⟩
    simp [asks?, read?, stage, request?, read, asked]

theorem asks?_of_unread (unread : i.text? = none) : s.asks? i = none := by
  cases asks : s.asks? i with
  | none => rfl
  | some event =>
    obtain ⟨text, -, -, -, -, -, -, rfl, -⟩ := asks?_eq_some_iff.mp asks
    cases unread

theorem asks?_of_stage (stage : s.stage ≠ .reading) : s.asks? i = none := by
  cases asks : s.asks? i with
  | none => rfl
  | some event =>
    obtain ⟨-, -, -, -, -, -, reading, -⟩ := asks?_eq_some_iff.mp asks
    exact absurd reading stage

theorem asks?_of_request {text key : String} {instruction : Option Event}
    (stage : s.stage = .reading) (request : request? text = some (key, instruction)) :
    s.asks? (.received (.text text)) = instruction := by
  simp [asks?, read?, stage, request]

theorem asks?_of_other {text : String} (stage : s.stage = .reading)
    (request : request? text = none) : s.asks? (.received (.text text)) = none := by
  simp [asks?, read?, stage, request]

/-! ## Steps -/

/-- **A step, seen from the local player**: the stage after it, and what the local player is told.
-/
inductive Told (s : Session) (i : Input) : Stage → List Event → Prop where
  | asked {event key} (asks : s.asks? i = some event) (undealt : i.dealt = false) :
      Told s i (.delivering event key) [event]
  | dealt {event key stage} (before : s.stage = .delivering event key) (dealt : i.dealt = true)
      (after : ∀ key, stage ≠ .delivering .transfer key) :
      Told s i stage (if event = .transfer then s.resumption else [])
  /-- Nothing is told, and whoever was waiting for the local player still is. -/
  | idle {stage} (asks : s.asks? i = none)
      (same : ∀ event key, stage = .delivering event key ↔ s.stage = .delivering event key)
      (undealt : ∀ event key, s.stage = .delivering event key → i.dealt = false) : Told s i stage []

/-- Whether the local player deals with an instruction. -/
def Stage.IsTelling : Stage → Prop
  | .delivering .. => True
  | _ => False

theorem Stage.IsFree.not_telling {stage : Stage} (h : stage.IsFree) : ¬stage.IsTelling := by
  cases stage with
  | delivering => exact h.elim
  | _ => exact id

/-- Nothing is told where the local player deals with nothing before and after. -/
theorem told_of_not_telling {stage : Stage} (asks : s.asks? i = none)
    (before : ¬s.stage.IsTelling) (after : ¬stage.IsTelling) : Told s i stage [] := by
  have not_delivering {stage : Stage} (h : ¬stage.IsTelling) (event : Event) (key : String) :
      stage ≠ .delivering event key := by
    rintro rfl
    exact h trivial
  refine .idle asks (fun event key => ⟨fun eq => ?_, fun eq => ?_⟩) fun event key eq => ?_
  · exact absurd eq (not_delivering after event key)
  · exact absurd eq (not_delivering before event key)
  · exact absurd eq (not_delivering before event key)

theorem told_of_turn {stage : Stage} (unread : i.text? = none) (before : ¬s.stage.IsTelling)
    (after : ¬stage.IsTelling) : Told s i stage [] :=
  told_of_not_telling (asks?_of_unread unread) before after

/-- Nothing is told where the stage stays. -/
theorem told_of_stay (asks : s.asks? i = none) (undealt : i.dealt = false) :
    Told s i s.stage [] :=
  .idle asks (fun _ _ => .rfl) fun _ _ _ => undealt

/-- The reply to a request ends what the local player is told for it. -/
theorem told_of_replyDue {key : String} {stage : Stage} (due : ReplyDue s i key)
    (after : ¬stage.IsTelling) : Told s i stage [] := by
  cases due with
  | asked reading request =>
    refine told_of_not_telling (asks?_of_request reading request) ?_ after
    rw [reading]
    nofun
  | @told accepted event key delivering last =>
    have nothing : [] = if event = .transfer then s.resumption else [] := by
      by_cases transfer : event = .transfer
      · rw [if_pos transfer, resumption, last transfer]
        rfl
      · rw [if_neg transfer]
    rw [nothing]
    refine .dealt delivering rfl fun key eq => after ?_
    rw [eq]
    trivial

theorem Flow.told (flow : Flow s i l effects) :
    Told s i l.stage (effects.filterMap Effect.event?) := by
  cases flow with
  | stay unread others mum =>
    rw [mum.events]
    refine told_of_stay (asks?_of_unread unread) ?_
    cases i with
    | delivered => exact absurd trivial others
    | _ => rfl
  | pass stage request _ still =>
    rw [still.events]
    exact told_of_stay (asks?_of_other stage request) rfl
  | idle before same unread mum =>
    rw [mum.events]
    have away : Stage.IsAway _ := .imp same.trans same.trans before
    exact told_of_turn unread (free_of_away before).not_telling
      (free_of_away away).not_telling
  | connect before =>
    refine told_of_turn rfl ?_ id
    exact (free_of_away (.inl before)).not_telling
  | greet before | refuse before =>
    refine told_of_not_telling (asks?_of_stage fun reading => ?_) ?_ id
    · cases before.symm.trans reading
    · rw [before]
      exact id
  | turn before after unread mum =>
    rw [mum.events]
    exact told_of_turn unread (free_of_up before).not_telling
      (free_of_up after).not_telling
  | instruct before request => exact .asked (asks?_of_request before request) rfl
  | @takeOver accepted key play before playing =>
    have resumed : [.play play] = if Event.transfer = .transfer then s.resumption else [] := by
      rw [if_pos rfl, resumption, playing]
      rfl
    show Told s _ (.delivering (.play play) key) [.play play]
    rw [resumed]
    refine .dealt before rfl fun key eq => ?_
    cases eq
  | reply due _ _ after =>
    refine told_of_replyDue due ?_
    rcases after with rfl | rfl <;> exact id
  | unreplied due => exact told_of_replyDue due id
  | fall before unread =>
    exact told_of_turn unread (free_of_canFall before).not_telling id
  | intrude before handshake =>
    obtain ⟨uri, headers, read⟩ := handshake
    refine told_of_not_telling (asks?_of_other before (by rw [request?, read])) ?_ id
    rw [before]
    exact id
  | stuck before | part before | letGo before =>
    refine told_of_turn rfl ?_ id
    rw [before]
    exact id
  | farewell _ before _ _ _ after =>
    refine told_of_turn rfl ?_ ?_
    · rw [before]
      exact id
    · rcases after with rfl | rfl <;> exact id
  | finish before after unread =>
    refine told_of_turn unread ?_ (free_of_away (.inr after)).not_telling
    rcases before with before | ⟨before, -⟩ | ⟨before, -⟩
    · exact (free_of_away (.inl before)).not_telling
    · intro telling
      cases stage : s.stage with
      | delivering =>
        rw [stage] at before
        cases before
      | _ =>
        rw [stage] at telling
        exact telling
    · rw [before]
      exact id
  | attempt before after mum =>
    rw [mum.events]
    exact told_of_turn rfl (free_of_away (.inr before)).not_telling
      (free_of_away (.inl after)).not_telling
  | write | exhaust | wrote | beat | silence => exact told_of_stay (asks?_of_unread rfl) rfl

/-! ## Histories that are closed -/

/-- **A history is closed** if what follows does not change what it asks for. -/
def Closed (past : List Moment) : Prop :=
  ∀ later, instructions (past ++ later) = instructions past ++ instructions later

theorem closed_nil : Closed [] := fun _ => rfl

theorem Closed.append {more : List Moment} (h : Closed past) (next : Closed more) :
    Closed (past ++ more) := by
  intro later
  rw [List.append_assoc, h, next, h, List.append_assoc]

theorem followUp_of_other (other : event ≠ .transfer) (later : List Moment) :
    followUp event later = [] := if_neg other

theorem instructions_of_silent (asks : m.before.asks? m.input = none) (later : List Moment) :
    instructions (m :: later) = instructions later := by
  rw [instructions, asks]

theorem instructions_of_asked (asks : m.before.asks? m.input = some event) (later : List Moment) :
    instructions (m :: later) = event :: (followUp event later ++ instructions later) := by
  rw [instructions, asks]

/-- Nothing follows a moment at which no transfer is asked for. -/
theorem closed_singleton (h : m.before.asks? m.input ≠ some .transfer) : Closed [m] := by
  intro later
  cases asks : m.before.asks? m.input with
  | none =>
    rw [List.singleton_append, instructions_of_silent asks, instructions_of_silent asks]
    rfl
  | some event =>
    have other : event ≠ .transfer := fun eq => h (by rw [asks, eq])
    rw [List.singleton_append, instructions_of_asked asks, instructions_of_asked asks,
      followUp_of_other other, followUp_of_other other]
    rfl

/-- A moment at which nothing is asked for, and the local player is not done with anything. -/
structure Moment.Idle (m : Moment) : Prop where
  asks : m.before.asks? m.input = none
  undealt : m.input.dealt = false

theorem instructions_of_idle {between : List Moment} (idle : ∀ m ∈ between, m.Idle)
    (later : List Moment) : instructions (between ++ later) = instructions later := by
  induction between with
  | nil => rfl
  | cons m between ih =>
    obtain ⟨head, tail⟩ := List.forall_mem_cons.mp idle
    rw [List.cons_append, instructions_of_silent head.asks, ih tail]

/-- What follows a transfer is settled when the local player is done with it. -/
theorem followUp_transfer {between : List Moment} (idle : ∀ m ∈ between, m.Idle)
    (dealt : m.input.dealt = true) (later : List Moment) :
    followUp .transfer (between ++ m :: later) = m.before.resumption := by
  have none : between.find? (·.input.dealt) = none :=
    List.find?_eq_none.mpr fun m mem => by rw [(idle m mem).undealt]; nofun
  have first : (m :: later).find? (·.input.dealt) = some m := List.find?_cons_of_pos dealt
  rw [followUp, if_pos rfl, List.find?_append, none, Option.none_or, first]

theorem followUp_nil (event : Event) : followUp event [] = [] := by
  unfold followUp
  split <;> rfl

/-- Until then it is open. -/
theorem followUp_idle {between : List Moment} (idle : ∀ m ∈ between, m.Idle) :
    followUp .transfer between = [] := by
  have none : between.find? (·.input.dealt) = none :=
    List.find?_eq_none.mpr fun m mem => by rw [(idle m mem).undealt]; nofun
  rw [followUp, if_pos rfl, none]

section Transfer

variable {transfer : Moment} {between : List Moment}

theorem instructions_of_open (asks : transfer.before.asks? transfer.input = some .transfer)
    (idle : ∀ m ∈ between, m.Idle) : instructions (transfer :: between) = [.transfer] := by
  have rest := instructions_of_idle idle []
  rw [List.append_nil] at rest
  rw [instructions_of_asked asks, followUp_idle idle, rest]
  rfl

theorem instructions_of_dealt (asks : transfer.before.asks? transfer.input = some .transfer)
    (idle : ∀ m ∈ between, m.Idle) (dealt : m.input.dealt = true)
    (silent : m.before.asks? m.input = none) (later : List Moment) :
    instructions (transfer :: between ++ m :: later) =
      .transfer :: (m.before.resumption ++ instructions later) := by
  rw [List.cons_append, instructions_of_asked asks, followUp_transfer idle dealt,
    instructions_of_idle idle, instructions_of_silent silent]

theorem closed_of_dealt (asks : transfer.before.asks? transfer.input = some .transfer)
    (idle : ∀ m ∈ between, m.Idle) (dealt : m.input.dealt = true)
    (silent : m.before.asks? m.input = none) : Closed (transfer :: between ++ [m]) := by
  intro later
  rw [List.append_assoc, List.singleton_append, instructions_of_dealt asks idle dealt silent,
    instructions_of_dealt asks idle dealt silent, instructions, List.append_nil]
  rfl

end Transfer

/-! ## Runs -/

/-- **Where the history of an attempt stands**: it is closed, or the local player deals with a
transfer that was asked for last. -/
inductive Standing (past : List Moment) (stage : Stage) : Prop where
  | closed (closed : Closed past) (rests : ∀ key, stage ≠ .delivering .transfer key)
  | pending {before : List Moment} {transfer : Moment} {between : List Moment} {key : String}
      (split : past = before ++ transfer :: between) (closed : Closed before)
      (asks : transfer.before.asks? transfer.input = some .transfer)
      (idle : ∀ m ∈ between, m.Idle) (telling : stage = .delivering .transfer key)

/-- **The local player is told what the frames say.** -/
structure Instructed (past : List Moment) (stage : Stage) : Prop where
  agrees : told past = instructions past
  standing : Standing past stage

theorem told_singleton (m : Moment) : told [m] = m.effects.filterMap Effect.event? :=
  List.append_nil _

/-- A step on the attempt keeps to what the frames say. -/
theorem Instructed.step (h : Instructed past s.stage)
    (step : Told s i s'.stage (effects.filterMap Effect.event?)) :
    Instructed (past ++ [⟨s, i, s', effects⟩]) s'.stage := by
  have told_more : told (past ++ [⟨s, i, s', effects⟩]) =
      instructions past ++ effects.filterMap Effect.event? := by
    rw [told_append, told_singleton, h.agrees]
  generalize effects.filterMap Effect.event? = events at step told_more
  generalize next : s'.stage = stage' at step
  cases h.standing with
  | closed closed rests =>
    cases step with
    | @asked event key asks undealt =>
      -- only a transfer leaves the history open: what follows it depends on the snapshot when the
      -- local player has dealt with it
      have one : instructions [⟨s, i, s', effects⟩] = [event] := by
        rw [instructions_of_asked (m := ⟨s, i, s', effects⟩) asks, followUp_nil]
        rfl
      refine ⟨by rw [told_more, closed, one], ?_⟩
      by_cases transfer : event = .transfer
      · subst transfer
        exact .pending rfl closed asks (fun m mem => nomatch mem) rfl
      · refine .closed (closed.append (closed_singleton fun eq => transfer ?_)) ?_
        · exact Option.some.inj (asks.symm.trans eq)
        · exact fun key eq => transfer (Stage.delivering.inj eq).1
    | @dealt event key _ before dealt after =>
      -- behind a closed history this is no transfer, so nothing is resumed
      have asks : s.asks? i = none := asks?_of_stage (by rw [before]; nofun)
      have other : event ≠ .transfer := fun eq => rests key (eq ▸ before)
      have one : instructions [⟨s, i, s', effects⟩] = [] :=
        instructions_of_silent (m := ⟨s, i, s', effects⟩) asks []
      rw [if_neg other] at told_more
      refine ⟨by rw [told_more, closed, one], .closed (closed.append (closed_singleton ?_)) after⟩
      exact fun eq => nomatch asks.symm.trans eq
    | idle asks same =>
      have one : instructions [⟨s, i, s', effects⟩] = [] :=
        instructions_of_silent (m := ⟨s, i, s', effects⟩) asks []
      refine ⟨by rw [told_more, closed, one], .closed (closed.append (closed_singleton ?_)) ?_⟩
      · exact fun eq => nomatch asks.symm.trans eq
      · exact fun key eq => rests key ((same _ key).mp eq)
  | @pending before transfer between key split closed asks idle telling =>
    have silent : s.asks? i = none := asks?_of_stage (by rw [telling]; nofun)
    have open_ : instructions past = instructions before ++ [.transfer] := by
      rw [split, closed, instructions_of_open asks idle]
    cases step with
    | asked asks => cases silent.symm.trans asks
    | @dealt event key' _ here dealt after =>
      -- the transfer is followed by what is resumed now, and that closes the history
      obtain rfl : Event.transfer = event := (Stage.delivering.inj (telling.symm.trans here)).1
      have whole : past ++ [⟨s, i, s', effects⟩] =
          before ++ (transfer :: between ++ [⟨s, i, s', effects⟩]) := by
        rw [split, List.append_assoc]
      rw [if_pos rfl, open_] at told_more
      refine ⟨?_, ?_⟩
      · rw [told_more, whole, closed, instructions_of_dealt asks idle dealt silent, instructions]
        simp
      · rw [whole]
        exact .closed (closed.append (closed_of_dealt asks idle dealt silent)) after
    | idle _ same undealt =>
      have still : (⟨s, i, s', effects⟩ : Moment).Idle := ⟨silent, undealt _ _ telling⟩
      have whole : past ++ [⟨s, i, s', effects⟩] =
          before ++ transfer :: (between ++ [⟨s, i, s', effects⟩]) := by
        rw [split, List.append_assoc]
        rfl
      have idle' : ∀ m ∈ between ++ [⟨s, i, s', effects⟩], m.Idle := forall_mem_concat idle still
      refine ⟨?_, .pending whole closed asks idle' ((same _ key).mpr telling)⟩
      rw [told_more, open_, whole, closed, instructions_of_open asks idle', List.append_nil]

theorem instructed_nil (seeking : s.Seeking) : Instructed [] s.stage := by
  refine ⟨rfl, .closed closed_nil ?_⟩
  intro key eq
  have phase := seeking.phase
  rw [eq] at phase
  cases phase

theorem Run.instructed (run : Run config now ms s) (epoch : Nat) :
    told (during ms epoch) = instructions (during ms epoch) := by
  obtain ⟨last, instructed, -⟩ := run.attempt_induction epoch
    (P := fun past s => Instructed past s.stage) (fun s seeking => instructed_nil seeking)
    fun _ _ h ih => ih.step (step?_flow h).told
  exact instructed.agrees

/-! ## The snapshot at the moment -/

/-- A cluster that is pushed is published at once. -/
theorem handle_of_pushed {text : String} {cluster : Cluster.State}
    (pushed : pushed? s.config text = some cluster) :
    s.handle text = s.publish cluster s.epoch := by
  unfold pushed? at pushed
  split at pushed
  · rename_i uri headers payload read
    split at pushed
    · rename_i topic
      rw [handle, read]
      simp only [notify, topic, pushed]
    · cases pushed
  · cases pushed

theorem Run.push_published {rest : List Moment} {text : String} {cluster : Cluster.State}
    (run : Run config now ms s) (split : ms = past ++ m :: rest) (stage : m.before.stage = .reading)
    (input : m.input = .received (.text text)) (pushed : pushed? config text = some cluster) :
    m.publications = [stamped config cluster (m.before.published + 1) m.before.epoch] := by
  obtain ⟨before, stepped⟩ := run.moment split
  have told : m.before.config = config := before.counted.config
  subst told
  have handled : m.before.step? m.input = some (m.before.handle text) := by
    rw [input]
    simp only [step?, received?, stage]
  rw [handled, handle_of_pushed pushed] at stepped
  obtain ⟨-, effects⟩ := Prod.mk.inj (Option.some.inj stepped)
  rw [Moment.publications, ← effects]
  rfl

/-- The snapshot at a moment is what was published last, and every cluster that was pushed before
is in it or in one that it replaced. -/
theorem Run.snapshot_reflects {rest : List Moment} (run : Run config now ms s)
    (split : ms = past ++ m :: rest) :
    m.before.snapshot = (publications past).getLast?.getD {} ∧
    ∀ push ∈ past, ∀ text cluster, push.before.stage = .reading →
      push.input = .received (.text text) → pushed? config text = some cluster →
      ∃ rev ≤ m.before.snapshot.rev,
        push.publications = [stamped config cluster rev push.before.epoch] := by
  obtain ⟨before, -⟩ := run.moment split
  have counted := before.counted
  refine ⟨counted.last, ?_⟩
  intro push mem text cluster stage input pushed
  obtain ⟨earlier, later, split'⟩ := List.append_of_mem mem
  have published := before.push_published split' stage input pushed
  refine ⟨_, ?_, published⟩
  have among : stamped config cluster (push.before.published + 1) push.before.epoch ∈
      publications past := List.mem_flatMap.mpr ⟨push, mem, by rw [published]; simp⟩
  have numbered := List.mem_map_of_mem (f := (·.rev)) among
  rw [counted.revs, List.mem_range'_1] at numbered
  have current : m.before.snapshot.rev = (publications past).length := counted.snapshot_rev
  have rev : (stamped config cluster (push.before.published + 1) push.before.epoch).rev =
      push.before.published + 1 := rfl
  omega

/-! ## The answers of the local player -/

/-- An input without what the local player answers. -/
def Input.plain : Input → Input
  | .delivered _ => .delivered true
  | i => i

/-- A moment without what the local player answers. -/
def Moment.plain (m : Moment) : Moment := { m with input := m.input.plain }

theorem step?_plain (s : Session) (i : Input) : s.step? i.plain = s.step? i := by
  cases i <;> rfl

/-- **Whatever the local player answers**, the session goes on in the same way. -/
theorem Run.of_plain {ms' : List Moment} (run : Run config now ms s)
    (alike : ms'.map Moment.plain = ms.map Moment.plain) : Run config now ms' s := by
  induction run generalizing ms' with
  | start =>
    obtain rfl := List.map_eq_nil_iff.mp alike
    exact .start
  | @step ms s i s' effects run h ih =>
    rw [List.map_append] at alike
    obtain ⟨earlier, last, rfl, first, one⟩ := List.map_eq_append_iff.mp alike
    obtain ⟨m, none, rfl, same, nothing⟩ := List.map_eq_cons_iff.mp one
    obtain rfl := List.map_eq_nil_iff.mp nothing
    obtain ⟨before, input, after, effects'⟩ := m
    obtain ⟨rfl, input, rfl, rfl⟩ := Moment.mk.inj same
    refine (ih first).step ?_
    rw [← step?_plain, input, step?_plain]
    exact h

/-- A snapshot with a track can be resumed, and no other. -/
theorem resumption_cases (s : Session) :
    (s.snapshot.trackUri = none → s.resumption = []) ∧
    (s.snapshot.trackUri ≠ none →
      ∃ play, s.snapshot.takeover? s.now = some play ∧ s.resumption = [.play play]) := by
  unfold resumption Snapshot.takeover?
  cases s.snapshot.trackUri with
  | none => exact ⟨fun _ => rfl, fun track => absurd rfl track⟩
  | some track => exact ⟨nofun, fun _ => ⟨_, rfl, rfl⟩⟩

/-- **The local player is told what the requests ask for, in their order.** On every attempt it is
told just what the frames say: a request asks for something if it decodes to an instruction, and
after a transfer comes the instruction to resume what the snapshot of that moment has, if it has a
track. The snapshot of a moment is what was published last, and no cluster that was pushed before is
missing from the publications up to it. What the local player answers makes no difference. -/
theorem told_what_is_asked (run : Run config now ms s) :
    (∀ epoch, told (during ms epoch) = instructions (during ms epoch)) ∧
    (∀ m ∈ ms, ∀ event, m.before.asks? m.input = some event ↔
      ∃ text key uri headers payload request, m.before.stage = .reading ∧
        m.input = .received (.text text) ∧
        Frame.read text = .ok (.request key uri headers payload) ∧
        Request.decode payload = .ok request ∧ request.event = .ok (some event)) ∧
    (∀ m ∈ ms, (m.before.snapshot.trackUri = none → m.before.resumption = []) ∧
      (m.before.snapshot.trackUri ≠ none → ∃ play,
        m.before.snapshot.takeover? m.before.now = some play ∧
        m.before.resumption = [.play play])) ∧
    (∀ past m rest, ms = past ++ m :: rest →
      m.before.snapshot = (publications past).getLast?.getD {} ∧
      ∀ push ∈ past, ∀ text cluster, push.before.stage = .reading →
        push.input = .received (.text text) → pushed? config text = some cluster →
        ∃ rev ≤ m.before.snapshot.rev,
          push.publications = [stamped config cluster rev push.before.epoch]) ∧
    ∀ ms', ms'.map Moment.plain = ms.map Moment.plain → Run config now ms' s := by
  refine ⟨run.instructed, fun m _ event => asks?_eq_some_iff, fun m _ => resumption_cases _, ?_,
    fun ms' alike => run.of_plain alike⟩
  intro past m rest split
  exact run.snapshot_reflects split

/-- The request for an instruction without parameters. -/
def requestText (endpoint : String) : String :=
  (Json.ofMembers [("type", .string "request"), ("uri", .string "hm://connect-state/v1/player"),
    ("key", .string endpoint), ("payload",
      Json.ofMembers [("command", Json.ofMembers [("endpoint", .string endpoint)])])]).text

/-- A transfer and a pause while a track is playing; the local player refuses all of it. -/
theorem told_of_transfer : ∃ ms s, Run sampleConfig 0 ms s ∧
    (told (during ms 1)).map Event.name = ["transfer", "play", "pause"] := by
  let song : Cluster.State := { playerState := some { track := some { uri := "spotify:song:x" } } }
  have asked : (replay? sampleConfig 0 (joining "one" song ++
      [.received (.text (requestText "transfer")), .delivered false, .delivered false,
        .received (.text (requestText "pause")), .delivered false])).map (fun run =>
      (instructions (during run.1 1)).map Event.name) = some ["transfer", "play", "pause"] := by
    decide +kernel
  obtain ⟨⟨ms, s⟩, replayed, asked⟩ := Option.map_eq_some_iff.mp asked
  have run := Run.of_replay? replayed
  obtain ⟨agrees, -⟩ := told_what_is_asked run
  refine ⟨ms, s, run, ?_⟩
  rw [agrees]
  exact asked

end RemotePlayback.Session
