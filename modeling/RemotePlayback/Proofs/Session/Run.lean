import RemotePlayback.Proofs.Session.Change

/-! Runs of a session, and what their history tells.

A run is a list of moments, each a step with what brought it about and what it did. Inputs come in
any order that the steps allow: answers to reports, pushes, failures, the caller's commands and the
cancellation interleave freely. The history tells which snapshots were published, how many attempts
there were, and what was heard on each. -/

namespace RemotePlayback.Session

open Playback Dealer

/-- **A moment of a run**: a step, with the session before and after it. -/
structure Moment where
  before : Session
  input : Input
  after : Session
  effects : List Effect

/-- **A run**: the moments that lead from the start of a session to where it is now. -/
inductive Run (config : Config) (now : Int64) : List Moment → Session → Prop where
  | start : Run config now [] (start config now).1
  | step {ms s input s' effects} (run : Run config now ms s)
      (h : s.step? input = some (s', effects)) :
      Run config now (ms ++ [⟨s, input, s', effects⟩]) s'

variable {config : Config} {now : Int64} {ms : List Moment} {m : Moment} {s : Session}

/-- Every moment of a run is a step from where the moments before it lead. -/
theorem Run.moment {past rest : List Moment} (run : Run config now ms s)
    (split : ms = past ++ m :: rest) :
    Run config now past m.before ∧ m.before.step? m.input = some (m.after, m.effects) := by
  induction run generalizing rest with
  | start => simp at split
  | step run h ih =>
    -- the moment is the last one, or belongs to the run before it
    rcases List.eq_nil_or_concat rest with rfl | ⟨rest, last, rfl⟩
    · obtain ⟨rfl, last⟩ := List.append_inj' split rfl
      obtain ⟨rfl, -⟩ := List.cons.inj last
      exact ⟨run, h⟩
    · rw [List.concat_eq_append, ← List.cons_append, ← List.append_assoc] at split
      exact ih (List.append_inj' split rfl).1

theorem Run.of_mem (run : Run config now ms s) (mem : m ∈ ms) :
    ∃ past rest, ms = past ++ m :: rest ∧ Run config now past m.before ∧
      m.before.step? m.input = some (m.after, m.effects) := by
  obtain ⟨past, rest, split⟩ := List.append_of_mem mem
  exact ⟨past, rest, split, run.moment split⟩

/-- So is every moment behind one of them. -/
theorem Run.after {past rest : List Moment} {m' : Moment} (run : Run config now ms s)
    (split : ms = past ++ m :: rest) (mem : m' ∈ rest) :
    ∃ front, Run config now (past ++ m :: front) m'.before ∧
      m'.before.step? m'.input = some (m'.after, m'.effects) := by
  obtain ⟨front, back, rfl⟩ := List.append_of_mem mem
  have split' : ms = (past ++ m :: front) ++ m' :: back := by
    rw [split, List.append_assoc, List.cons_append]
  exact ⟨front, run.moment split'⟩

/-- What holds after one moment of a run and is kept by every step after it holds at the end. -/
theorem Run.since {P : List Moment → Session → Prop} {past rest : List Moment}
    (run : Run config now ms s) (split : ms = past ++ m :: rest) (here : P [] m.after)
    (step : ∀ {rest s i s' effects}, Run config now (past ++ m :: rest) s → P rest s →
      s.step? i = some (s', effects) → P (rest ++ [⟨s, i, s', effects⟩]) s') : P rest s := by
  induction run generalizing rest with
  | start => simp at split
  | step run h ih =>
    rcases List.eq_nil_or_concat rest with rfl | ⟨rest, last, rfl⟩
    · obtain ⟨-, last⟩ := List.append_inj' split rfl
      obtain ⟨rfl, -⟩ := List.cons.inj last
      exact here
    · rw [List.concat_eq_append, ← List.cons_append, ← List.append_assoc] at split
      obtain ⟨rfl, last⟩ := List.append_inj' split rfl
      obtain ⟨rfl, -⟩ := List.cons.inj last
      rw [List.concat_eq_append]
      exact step run (ih rfl) h

/-- Adds the moment of an input to a run, if the input can happen. -/
def follow? (run : List Moment × Session) (i : Input) : Option (List Moment × Session) :=
  (run.2.step? i).map fun r => (run.1 ++ [⟨run.2, i, r.1, r.2⟩], r.1)

/-- The run that is brought about by inputs, if they can happen one after the other. -/
def replay? (config : Config) (now : Int64) (inputs : List Input) :
    Option (List Moment × Session) :=
  inputs.foldlM follow? ([], (start config now).1)

theorem Run.follow? {run run' : List Moment × Session} {i : Input}
    (h : Run config now run.1 run.2) (followed : follow? run i = some run') :
    Run config now run'.1 run'.2 := by
  obtain ⟨r, stepped, rfl⟩ := Option.map_eq_some_iff.mp followed
  exact h.step stepped

/-- Whatever is replayed is a run. -/
theorem Run.of_replay? {inputs : List Input} {run : List Moment × Session}
    (h : replay? config now inputs = some run) : Run config now run.1 run.2 := by
  have keeps (inputs : List Input) (run₀ : List Moment × Session)
      (so_far : Run config now run₀.1 run₀.2) (h : inputs.foldlM Session.follow? run₀ = some run) :
      Run config now run.1 run.2 := by
    induction inputs generalizing run₀ with
    | nil => exact Option.some.inj h ▸ so_far
    | cons i inputs ih =>
      obtain ⟨run₁, followed, h⟩ := Option.bind_eq_some_iff.mp h
      exact ih run₁ (so_far.follow? followed) h
  exact keeps inputs _ .start h

/-- A replay takes the inputs one after the other. -/
theorem inputs_of_replay? {inputs : List Input} {run : List Moment × Session}
    (h : replay? config now inputs = some run) : run.1.map (·.input) = inputs := by
  have keeps (inputs : List Input) (run₀ : List Moment × Session)
      (h : inputs.foldlM Session.follow? run₀ = some run) :
      run.1.map (·.input) = run₀.1.map (·.input) ++ inputs := by
    induction inputs generalizing run₀ with
    | nil => rw [List.append_nil, Option.some.inj h]
    | cons i inputs ih =>
      obtain ⟨run₁, followed, h⟩ := Option.bind_eq_some_iff.mp h
      obtain ⟨r, -, rfl⟩ := Option.map_eq_some_iff.mp followed
      rw [ih _ h, List.map_append, List.append_assoc]
      rfl
  exact keeps inputs _ h

/-- What follows on a run comes after its moments. -/
theorem append_of_follow? {inputs : List Input} {run run' : List Moment × Session}
    (h : inputs.foldlM follow? run = some run') : ∃ rest, run'.1 = run.1 ++ rest := by
  induction inputs generalizing run with
  | nil => exact ⟨[], by rw [← Option.some.inj h, List.append_nil]⟩
  | cons i inputs ih =>
    obtain ⟨next, followed, h⟩ := Option.bind_eq_some_iff.mp h
    obtain ⟨r, -, rfl⟩ := Option.map_eq_some_iff.mp followed
    obtain ⟨rest, eq⟩ := ih h
    exact ⟨⟨run.2, i, r.1, r.2⟩ :: rest, by rw [eq, List.append_assoc]; rfl⟩

/-- The moment of one of the inputs of a replay. -/
theorem split_of_replay? {before after : List Input} {i : Input} {run : List Moment × Session}
    (h : replay? config now (before ++ i :: after) = some run) :
    ∃ past m rest, run.1 = past ++ m :: rest ∧
      replay? config now before = some (past, m.before) ∧ m.input = i := by
  rw [replay?, List.foldlM_append] at h
  obtain ⟨⟨past, s⟩, first, h⟩ := Option.bind_eq_some_iff.mp h
  obtain ⟨next, followed, h⟩ := Option.bind_eq_some_iff.mp h
  obtain ⟨r, -, rfl⟩ := Option.map_eq_some_iff.mp followed
  obtain ⟨rest, eq⟩ := append_of_follow? h
  exact ⟨past, ⟨s, i, r.1, r.2⟩, rest, by rw [eq, List.append_assoc]; rfl, first, rfl⟩

/-! ## Scripts -/

/-- A session without a directory and without pings, which makes its next attempt at once. -/
def sampleConfig : Config where
  deviceId := "local"
  dealerUrl := "wss://dealer"
  reconnectDelay := 0
  pingInterval := 0

/-- The frame that gives an id to a connection. -/
def handshakeText (id : String) : String :=
  (Json.ofMembers [("type", .string "message"), ("uri", .string ""),
    ("headers", Json.ofMembers [(connectionIdHeader, .string id)])]).text

/-- An attempt up to its first snapshot. -/
def joining (id : String) (cluster : Cluster.State) : List Input := [
  .authorized (.ok "token"), .connected (.ok ()), .received (.text (handshakeText id)),
  .announced (.ok cluster), .proceed]

/-- The end of a connection, up to the next attempt. -/
def losing : List Input := [.received .ended, .proceed, .write, .proceed, .wake]

/-! ## What was published -/

/-- The snapshots that are published at a moment. -/
def Moment.publications (m : Moment) : List Snapshot := m.effects.filterMap Effect.snapshot?

/-- **The snapshots that were published**, in their order. -/
def publications (ms : List Moment) : List Snapshot := ms.flatMap Moment.publications

/-- The first snapshot that was published with an epoch. -/
def firstPublication? (ms : List Moment) (epoch : Nat) : Option Snapshot :=
  (publications ms).find? (·.epoch == epoch)

theorem publications_append (ms : List Moment) (m : Moment) :
    publications (ms ++ [m]) = publications ms ++ m.publications := by
  simp [publications]

/-! ## Attempts -/

/-- Whether the session, having rested, makes another attempt. -/
def Moment.beginsAttempt (m : Moment) : Bool :=
  match m.before.stage.phase, m.after.stage.phase with
  | .down, .seeking => true
  | _, _ => false

/-- **How many attempts were begun**, the first one included. -/
def attempts (ms : List Moment) : Nat := 1 + ms.countP Moment.beginsAttempt

theorem attempts_append (ms : List Moment) (m : Moment) :
    attempts (ms ++ [m]) = attempts ms + if m.beginsAttempt then 1 else 0 := by
  simp only [attempts, List.countP_append, List.countP_singleton]
  omega

/-! ## What was heard on an attempt -/

section FirstOn

variable {α : Type} (f : Input → Option α)

/-- The first input of a kind on an attempt. -/
def firstOn? (ms : List Moment) (epoch : Nat) : Option α :=
  ms.findSome? fun m => if m.before.epoch = epoch then f m.input else none

theorem firstOn?_append (ms : List Moment) (m : Moment) (epoch : Nat) :
    firstOn? f (ms ++ [m]) epoch =
      (firstOn? f ms epoch).or (if m.before.epoch = epoch then f m.input else none) := by
  rw [firstOn?, List.findSome?_append]
  congr 1
  simp [List.findSome?]
  split <;> simp_all

variable {f} {a : α} {epoch : Nat}

/-- What was heard first stays what was heard first. -/
theorem firstOn?_append_of_some (m : Moment) (h : firstOn? f ms epoch = some a) :
    firstOn? f (ms ++ [m]) epoch = some a := by
  rw [firstOn?_append, h, Option.some_or]

theorem firstOn?_append_of_none (h : firstOn? f ms epoch = none) (none : f m.input = none) :
    firstOn? f (ms ++ [m]) epoch = Option.none := by
  rw [firstOn?_append, h, Option.none_or, none, ite_self]

/-- Nothing is heard on an attempt that is still to come. -/
theorem firstOn?_eq_none (past : ∀ m ∈ ms, m.before.epoch < epoch) :
    firstOn? f ms epoch = none := by
  refine List.findSome?_eq_none_iff.mpr fun m hm => ?_
  rw [if_neg (Nat.ne_of_lt (past m hm))]

theorem exists_of_firstOn?_eq_some (h : firstOn? f ms epoch = some a) :
    ∃ m ∈ ms, m.before.epoch = epoch ∧ f m.input = some a := by
  obtain ⟨m, hm, found⟩ := List.exists_of_findSome?_eq_some h
  split at found
  · exact ⟨m, hm, ‹_›, found⟩
  · cases found

end FirstOn

/-- The first frame that was read on an attempt. -/
def heard? : List Moment → Nat → Option String := firstOn? Input.text?

/-- The answer to the announcement of an attempt. -/
def announcement? : List Moment → Nat → Option Cluster.State := firstOn? Input.announcement?

/-- The id that a text gives to a connection. -/
def handshakeId? (text : String) : Option String :=
  match Frame.read text with
  | .ok frame => frame.connectionId?
  | .error _ => none

/-- The id that the handshake of an attempt gave to its connection. -/
def handshake? (ms : List Moment) (epoch : Nat) : Option String :=
  (heard? ms epoch).bind handshakeId?

theorem handshake?_append {id : String} {epoch : Nat} (m : Moment)
    (h : handshake? ms epoch = some id) : handshake? (ms ++ [m]) epoch = some id := by
  obtain ⟨text, heard, id⟩ := Option.bind_eq_some_iff.mp h
  rw [handshake?, heard?, firstOn?_append_of_some m heard, Option.bind_some, id]

/-- **What was observed on an attempt**: the clusters that came over its connection, as the answer
to its announcement, by a push, or as the answer to a report that had gone out on it. -/
inductive Observed (config : Config) (ms : List Moment) (epoch : Nat) (c : Cluster.State) :
    Prop where
  | announced {m : Moment} (mem : m ∈ ms) (on : m.before.epoch = epoch)
      (input : m.input = .announced (.ok c))
  | pushed {m : Moment} {text : String} (mem : m ∈ ms) (on : m.before.epoch = epoch)
      (input : m.input = .received (.text text)) (pushed : pushed? config text = some c)
  | reported {m answer : Moment} {number id body} (mem : m ∈ ms) (on : m.before.epoch = epoch)
      (issued : .report (some number) id body ∈ m.effects) (mem' : answer ∈ ms)
      (input : answer.input = .reported number (.ok c))

theorem Observed.append {epoch : Nat} {c : Cluster.State} (m : Moment)
    (h : Observed config ms epoch c) : Observed config (ms ++ [m]) epoch c := by
  have later {m' : Moment} (mem : m' ∈ ms) : m' ∈ ms ++ [m] := List.mem_append_left _ mem
  cases h with
  | announced mem on input => exact .announced (later mem) on input
  | pushed mem on input pushed => exact .pushed (later mem) on input pushed
  | reported mem on issued mem' input => exact .reported (later mem) on issued (later mem') input

end RemotePlayback.Session
