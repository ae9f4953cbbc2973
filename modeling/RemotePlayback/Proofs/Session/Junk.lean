import RemotePlayback.Proofs.Session.Instructions
import RemotePlayback.Proofs.Session.Replies

/-! Frames that mean nothing.

Much of what comes over an established connection is of no use to the session: texts that are no
frames, signs of life, notifications about other things, and payloads that cannot be understood. The
session passes over all of it. That concerns two runs: the one with the junk and the one without.
Junk leaves the session as it was and does nothing, so the moments at which it is read can be left
out of a run or put into it anywhere, and what is left determines all that anybody else sees. -/

namespace RemotePlayback.Session

open Playback Dealer

variable {config : Config} {now : Int64} {ms ms' : List Moment} {m : Moment} {s s' : Session}
  {i : Input} {effects : List Effect} {text : String} {user : Option String} {epoch : Nat}

/-! ## Junk -/

/-- **A text that means nothing** on an established connection, to the session of a user. -/
inductive Junk (user : Option String) (text : String) : Prop where
  /-- No frame: no JSON, or of no known type, or without a field that it needs, or with a payload
  that cannot be unpacked. -/
  | unreadable {cause} (read : Frame.read text = .error cause)
  /-- A sign of life. -/
  | alive (read : Frame.read text = .ok .pong)
  /-- About something else. -/
  | elsewhere {uri headers payload}
      (read : Frame.read text = .ok (.notification uri headers payload))
      (topic : Topic.ofUri uri user = .other)
  /-- About the cluster, but no update. -/
  | garbled {uri headers payload} (read : Frame.read text = .ok (.notification uri headers payload))
      (topic : Topic.ofUri uri user = .cluster)
      (decoded : (Wire.decode? payload : Option Cluster.Update) = none)
  /-- An update without a cluster. -/
  | vacant {uri headers payload update}
      (read : Frame.read text = .ok (.notification uri headers payload))
      (topic : Topic.ofUri uri user = .cluster)
      (decoded : (Wire.decode? payload : Option Cluster.Update) = some update)
      (cluster : update.cluster = none)
  /-- About the collection, but no list of changes. -/
  | unlisted {uri headers payload cause}
      (read : Frame.read text = .ok (.notification uri headers payload))
      (topic : Topic.ofUri uri user = .collection)
      (decoded : Collection.decode payload = .error cause)

/-- Whether a notification is passed over. -/
def isPassedOver (user : Option String) (uri : String) (payload : Bytes) : Bool :=
  match Topic.ofUri uri user with
  | .cluster => ((Wire.decode? payload : Option Cluster.Update).bind (·.cluster)).isNone
  | .collection => !(Collection.decode payload).isOk
  | .rootlist => false
  | .other => true

/-- Whether a text is junk. -/
def isJunk (user : Option String) (text : String) : Bool :=
  match Frame.read text with
  | .error _ | .ok .pong => true
  | .ok (.notification uri _ payload) => isPassedOver user uri payload
  | .ok (.handshake ..) | .ok (.request ..) => false

theorem Junk.isJunk (junk : Junk user text) : isJunk user text = true := by
  cases junk with
  | unreadable read | alive read => simp [Session.isJunk, read]
  | elsewhere read topic => simp [Session.isJunk, read, isPassedOver, topic]
  | garbled read topic decoded => simp [Session.isJunk, read, isPassedOver, topic, decoded]
  | vacant read topic decoded cluster =>
    simp [Session.isJunk, read, isPassedOver, topic, decoded, cluster]
  | unlisted read topic decoded =>
    simp [Session.isJunk, read, isPassedOver, topic, decoded, Except.isOk, Except.toBool]

/-- A notification is passed over only for one of the four reasons. -/
theorem junk_of_isPassedOver {uri : String} {headers : Headers} {payload : Bytes}
    (read : Frame.read text = .ok (.notification uri headers payload))
    (passed : isPassedOver user uri payload = true) : Junk user text := by
  unfold isPassedOver at passed
  split at passed
  · rename_i topic
    cases decoded : (Wire.decode? payload : Option Cluster.Update) with
    | none => exact .garbled read topic decoded
    | some update =>
      rw [decoded] at passed
      exact .vacant read topic decoded (Option.isNone_iff_eq_none.mp passed)
  · rename_i topic
    cases decoded : Collection.decode payload with
    | error cause => exact .unlisted read topic decoded
    | ok changes =>
      rw [decoded] at passed
      cases passed
  · cases passed
  · rename_i topic
    exact .elsewhere read topic

theorem isJunk_iff : isJunk user text = true ↔ Junk user text := by
  refine ⟨fun junk => ?_, Junk.isJunk⟩
  unfold isJunk at junk
  split at junk
  · rename_i read
    exact .unreadable read
  · rename_i read
    exact .alive read
  · rename_i read
    exact junk_of_isPassedOver read junk
  · cases junk
  · cases junk

/-- **Junk leaves the session as it was** and does nothing. -/
theorem handle_of_junk (junk : Junk s.config.userId text) : s.handle text = (s, []) := by
  cases junk with
  | unreadable read | alive read => simp only [handle, read]
  | elsewhere read topic => simp only [handle, read, notify, topic]
  | garbled read topic decoded => simp only [handle, read, notify, topic, decoded, Option.bind_none]
  | vacant read topic decoded cluster =>
    simp only [handle, read, notify, topic, decoded, Option.bind_some, cluster]
  | unlisted read topic decoded => simp only [handle, read, notify, topic, decoded]

/-- Wherever the session reads, it can read junk. -/
theorem step?_of_junk (stage : s.stage = .reading) (junk : Junk s.config.userId text) :
    s.step? (.received (.text text)) = some (s, []) := by
  have read : s.step? (.received (.text text)) = some (s.handle text) := by
    simp only [step?, received?, stage]
  rw [read, handle_of_junk junk]

/-! ## Moments -/

/-- Whether junk is read at a moment. -/
def Moment.isJunk (m : Moment) : Bool :=
  (m.before.read? m.input).any (Session.isJunk m.before.config.userId)

/-- **What is left of a run without the junk.** -/
def earnest (ms : List Moment) : List Moment := ms.filter (!·.isJunk)

theorem read?_eq_some_iff :
    s.read? i = some text ↔ s.stage = .reading ∧ i = .received (.text text) := by
  constructor
  · intro read
    unfold read? at read
    split at read
    · rename_i stage
      cases read
      exact ⟨stage, rfl⟩
    · cases read
  · rintro ⟨stage, rfl⟩
    simp only [read?, stage]

theorem Moment.isJunk_iff : m.isJunk = true ↔ ∃ text, m.before.stage = .reading ∧
    m.input = .received (.text text) ∧ Junk m.before.config.userId text := by
  rw [Moment.isJunk, Option.any_eq_true_iff_get]
  constructor
  · rintro ⟨there, junk⟩
    obtain ⟨stage, input⟩ := read?_eq_some_iff.mp (Option.some_get there).symm
    exact ⟨_, stage, input, Session.isJunk_iff.mp junk⟩
  · rintro ⟨text, stage, input, junk⟩
    have read := read?_eq_some_iff.mpr ⟨stage, input⟩
    simp only [read, Option.isSome_some, Option.get_some, exists_const]
    exact junk.isJunk

/-- A step that reads junk is none. -/
theorem idle_of_isJunk (h : s.step? i = some (s', effects))
    (junk : Moment.isJunk ⟨s, i, s', effects⟩ = true) : s' = s ∧ effects = [] := by
  obtain ⟨text, stage, rfl, junk⟩ := Moment.isJunk_iff.mp junk
  obtain ⟨rfl, rfl⟩ := Prod.mk.inj (Option.some.inj (h.symm.trans (step?_of_junk stage junk)))
  exact ⟨rfl, rfl⟩

theorem earnest_append (ms more : List Moment) :
    earnest (ms ++ more) = earnest ms ++ earnest more := List.filter_append ..

theorem earnest_of_isJunk (junk : m.isJunk = true) : earnest [m] = [] := by
  rw [earnest, List.filter_cons_of_neg (by rw [junk]; nofun), List.filter_nil]

theorem earnest_of_not_isJunk (worth : m.isJunk = false) : earnest [m] = [m] := by
  rw [earnest, List.filter_cons_of_pos (by rw [worth]; rfl), List.filter_nil]

theorem Run.idle_of_isJunk (run : Run config now ms s) (mem : m ∈ ms) (junk : m.isJunk = true) :
    m.after = m.before ∧ m.effects = [] := by
  obtain ⟨past, rest, -, -, stepped⟩ := run.of_mem mem
  exact Session.idle_of_isJunk stepped junk

theorem Run.config_of_mem (run : Run config now ms s) (mem : m ∈ ms) :
    m.before.config = config := by
  obtain ⟨past, rest, -, before, -⟩ := run.of_mem mem
  exact before.counted.config

/-! ## Runs with junk and without -/

/-- **The junk can be left out**: what is left is a run to the same session. -/
theorem Run.earnest (run : Run config now ms s) : Run config now (earnest ms) s := by
  induction run with
  | start => exact .start
  | @step ms s i s' effects run h ih =>
    rw [earnest_append]
    by_cases junk : Moment.isJunk ⟨s, i, s', effects⟩ = true
    · obtain ⟨rfl, rfl⟩ := Session.idle_of_isJunk h junk
      rw [earnest_of_isJunk junk, List.append_nil]
      exact ih
    · rw [earnest_of_not_isJunk (Bool.eq_false_iff.mpr junk)]
      exact ih.step h

/-- The same inputs make the same run. -/
theorem Run.unique (run : Run config now ms s) (run' : Run config now ms' s')
    (alike : ms'.map (·.input) = ms.map (·.input)) : ms' = ms ∧ s' = s := by
  induction run generalizing ms' s' with
  | start =>
    cases run' with
    | start => exact ⟨rfl, rfl⟩
    | step => simp at alike
  | step run h ih =>
    cases run' with
    | start => simp at alike
    | step run' h' =>
      rw [List.map_append, List.map_append] at alike
      obtain ⟨earlier, last⟩ := List.append_inj' alike rfl
      obtain ⟨rfl, rfl⟩ := ih run' earlier
      cases last
      cases h.symm.trans h'
      exact ⟨rfl, rfl⟩

/-- **Junk can be read anywhere** on an established connection, and nothing comes of it. -/
theorem Run.insert {past rest : List Moment} {here : Session} (run : Run config now ms s)
    (split : ms = past ++ rest) (earlier : Run config now past here) (stage : here.stage = .reading)
    (junk : Junk config.userId text) :
    Run config now (past ++ ⟨here, .received (.text text), here, []⟩ :: rest) s := by
  have read : here.step? (.received (.text text)) = some (here, []) := by
    refine step?_of_junk stage ?_
    rwa [show here.config = config from earlier.counted.config]
  induction run generalizing rest with
  | start =>
    obtain ⟨rfl, rfl⟩ := List.append_eq_nil_iff.mp split.symm
    obtain ⟨-, rfl⟩ := Run.start.unique earlier rfl
    exact earlier.step read
  | step run h ih =>
    -- the junk comes last, or before the last step
    rcases List.eq_nil_or_concat rest with rfl | ⟨rest, last, rfl⟩
    · rw [List.append_nil] at split
      subst split
      obtain ⟨-, rfl⟩ := earlier.unique (run.step h) rfl
      exact earlier.step read
    · rw [List.concat_eq_append, ← List.append_assoc] at split
      obtain ⟨rfl, one⟩ := List.append_inj' split rfl
      obtain ⟨rfl, -⟩ := List.cons.inj one
      have longer := (ih rfl).step h
      rwa [List.append_assoc, List.cons_append, ← List.concat_eq_append] at longer

/-! ## What others see -/

/-- What others are told of changes of the collection and of the playlists. -/
def Effect.notice? : Effect → Option Effect
  | .collectionChanged change => some (.collectionChanged change)
  | .rootlistChanged => some .rootlistChanged
  | _ => none

/-- **The changes of the collection and of the playlists** that others are told of. -/
def notices (ms : List Moment) : List Effect :=
  ms.flatMap fun m => m.effects.filterMap Effect.notice?

/-- The connection on which the device is ready after a moment, if that changes. -/
def Moment.turns (m : Moment) : List (Option String) :=
  if m.after.connectionId? = m.before.connectionId? then [] else [m.after.connectionId?]

/-- **Readiness**: on which connections, one after the other, the device is ready. -/
def readiness (ms : List Moment) : List (Option String) := ms.flatMap Moment.turns

/-- What is read off the moments at which something happens does not depend on junk. -/
theorem Run.flatMap_earnest {α : Type} {f : Moment → List α} (run : Run config now ms s)
    (silent : ∀ m : Moment, m.after = m.before → m.effects = [] → f m = []) :
    (Session.earnest ms).flatMap f = ms.flatMap f := by
  induction run with
  | start => rfl
  | @step ms s i s' effects run h ih =>
    rw [earnest_append, List.flatMap_append, List.flatMap_append, ih]
    by_cases junk : Moment.isJunk ⟨s, i, s', effects⟩ = true
    · obtain ⟨rfl, rfl⟩ := Session.idle_of_isJunk h junk
      rw [earnest_of_isJunk junk, List.flatMap_singleton, silent _ rfl rfl]
      rfl
    · rw [earnest_of_not_isJunk (Bool.eq_false_iff.mpr junk)]

/-! ## Frames that were sent -/

/-- **The frames that were read** on the established connection of an attempt. -/
def framesRead (ms : List Moment) (epoch : Nat) : List String :=
  (during ms epoch).filterMap fun m => m.before.read? m.input

/-- The frames that are no junk. -/
def withoutJunk (user : Option String) (frames : List String) : List String :=
  frames.filter (!isJunk user ·)

theorem framesRead_append (ms more : List Moment) (epoch : Nat) :
    framesRead (ms ++ more) epoch = framesRead ms epoch ++ framesRead more epoch := by
  rw [framesRead, during, List.filter_append, List.filterMap_append]
  rfl

/-- What is read at one moment. -/
theorem framesRead_singleton (m : Moment) (epoch : Nat) :
    framesRead [m] epoch =
      if m.before.epoch = epoch then (m.before.read? m.input).toList else [] := by
  by_cases on : m.before.epoch = epoch
  · rw [framesRead, ← List.nil_append [m], during_append_of_eq on, if_pos on]
    cases read : m.before.read? m.input with
    | none => exact List.filterMap_cons_none read
    | some text => exact List.filterMap_cons_some read
  · rw [framesRead, ← List.nil_append [m], during_append_of_ne on, if_neg on]
    rfl

/-- At the moments that are left, the frames are read that are no junk. -/
theorem framesRead_earnest_singleton (told : m.before.config = config) (epoch : Nat) :
    framesRead (earnest [m]) epoch = withoutJunk config.userId (framesRead [m] epoch) := by
  cases read : m.before.read? m.input with
  | none =>
    have mute : framesRead [m] epoch = [] := by
      rw [framesRead_singleton, read]
      exact ite_self _
    rw [earnest_of_not_isJunk (by rw [Moment.isJunk, read]; rfl), mute]
    rfl
  | some text =>
    have same : m.isJunk = isJunk config.userId text := by
      rw [Moment.isJunk, read, told]
      rfl
    by_cases junk : m.isJunk = true
    · have out : withoutJunk config.userId [text] = [] := by simp [withoutJunk, ← same, junk]
      rw [earnest_of_isJunk junk, framesRead_singleton, read]
      split
      · exact out.symm
      · rfl
    · have kept : withoutJunk config.userId [text] = [text] := by simp [withoutJunk, ← same, junk]
      rw [earnest_of_not_isJunk (Bool.eq_false_iff.mpr junk), framesRead_singleton, read]
      split
      · exact kept.symm
      · rfl

theorem Run.framesRead_earnest (run : Run config now ms s) (epoch : Nat) :
    framesRead (Session.earnest ms) epoch = withoutJunk config.userId (framesRead ms epoch) := by
  induction run with
  | start => rfl
  | step run h ih =>
    rw [earnest_append, framesRead_append, framesRead_append, ih,
      framesRead_earnest_singleton run.counted.config, withoutJunk, withoutJunk, withoutJunk,
      List.filter_append]

/-- Any junk can be read where the session reads. -/
theorem Run.read_junk {junk : List String} (run : Run config now ms s) (stage : s.stage = .reading)
    (all : ∀ text ∈ junk, Junk config.userId text) :
    ∃ more, Run config now (ms ++ more) s ∧ Session.earnest more = [] ∧
      ∀ epoch, framesRead more epoch = if s.epoch = epoch then junk else [] := by
  induction junk generalizing ms with
  | nil => exact ⟨[], by rwa [List.append_nil], rfl, fun epoch => (ite_self _).symm⟩
  | cons text junk ih =>
    obtain ⟨first, others⟩ := List.forall_mem_cons.mp all
    have here : Junk s.config.userId text := by
      rwa [show s.config = config from run.counted.config]
    obtain ⟨more, run, nothing, frames⟩ := ih (run.step (step?_of_junk stage here)) others
    have isJunk : Moment.isJunk ⟨s, .received (.text text), s, []⟩ = true :=
      Moment.isJunk_iff.mpr ⟨text, stage, rfl, here⟩
    refine ⟨⟨s, .received (.text text), s, []⟩ :: more, ?_, ?_, ?_⟩
    · rwa [List.append_assoc] at run
    · rw [← List.singleton_append, earnest_append, earnest_of_isJunk isJunk, nothing]
      rfl
    · intro epoch
      rw [← List.singleton_append, framesRead_append, framesRead_singleton, frames,
        read?_eq_some_iff.mpr ⟨stage, rfl⟩]
      split <;> rfl

/-- What comes before the next frame that is no junk is junk. -/
theorem exists_junk_before {frames sent : List String}
    (next : withoutJunk user frames ++ [text] <+: withoutJunk user sent) (sofar : frames <+: sent) :
    ∃ junk, (∀ text ∈ junk, Junk user text) ∧ frames ++ junk ++ [text] <+: sent := by
  obtain ⟨rest, rfl⟩ := sofar
  obtain ⟨later, split⟩ := next
  rw [withoutJunk, withoutJunk, List.filter_append, List.append_assoc] at split
  obtain ⟨junk, after, rfl, all, -, -⟩ :=
    List.filter_eq_cons_iff.mp (List.append_cancel_left split).symm
  refine ⟨junk, fun text mem => isJunk_iff.mp (by simpa using all text mem), after, ?_⟩
  simp only [List.append_assoc, List.singleton_append]

/-- **Whatever junk comes in between**, the session can go on as it does: if the frames that are
sent on each attempt begin, but for the junk, with those that are read, it can read them as they
come, and all that is left without the junk is the same. -/
theorem Run.padded (run : Run config now ms s) {sent : Nat → List String}
    (begins : ∀ epoch, withoutJunk config.userId (framesRead ms epoch) <+:
      withoutJunk config.userId (sent epoch)) :
    ∃ ms', Run config now ms' s ∧ Session.earnest ms' = Session.earnest ms ∧
      ∀ epoch, framesRead ms' epoch <+: sent epoch := by
  induction run with
  | start => exact ⟨[], .start, rfl, fun epoch => List.nil_prefix⟩
  | @step ms s i s' effects run h ih =>
    have earlier (epoch : Nat) : withoutJunk config.userId (framesRead ms epoch) <+:
        withoutJunk config.userId (framesRead (ms ++ [⟨s, i, s', effects⟩]) epoch) := by
      rw [framesRead_append, withoutJunk, withoutJunk, List.filter_append]
      exact List.prefix_append ..
    obtain ⟨ms', run', same, frames⟩ := ih fun epoch => (earlier epoch).trans (begins epoch)
    by_cases junk : Moment.isJunk ⟨s, i, s', effects⟩ = true
    · -- there is no need to read junk that is read without there being any
      obtain ⟨rfl, -⟩ := Session.idle_of_isJunk h junk
      refine ⟨ms', run', ?_, frames⟩
      rw [earnest_append, earnest_of_isJunk junk, List.append_nil, same]
    · have kept := earnest_of_not_isJunk (Bool.eq_false_iff.mpr junk)
      cases read : s.read? i with
      | none =>
        refine ⟨ms' ++ [⟨s, i, s', effects⟩], run'.step h, ?_, fun epoch => ?_⟩
        · rw [earnest_append, earnest_append, same]
        · rw [framesRead_append, framesRead_singleton, read]
          simpa using frames epoch
      | some text =>
        obtain ⟨stage, rfl⟩ := read?_eq_some_iff.mp read
        have next : withoutJunk config.userId (framesRead ms' s.epoch) ++ [text] <+:
            withoutJunk config.userId (sent s.epoch) := by
          have begins := begins s.epoch
          rwa [← (run.step h).framesRead_earnest, earnest_append, kept, ← same, framesRead_append,
            run'.framesRead_earnest, framesRead_singleton, if_pos rfl, read] at begins
        obtain ⟨junk, all, longer⟩ := exists_junk_before next (frames s.epoch)
        obtain ⟨more, run', nothing, read'⟩ := run'.read_junk stage all
        refine ⟨ms' ++ more ++ [⟨s, _, s', effects⟩], run'.step h, ?_, fun epoch => ?_⟩
        · rw [earnest_append, earnest_append, earnest_append, same, nothing, List.append_nil]
        · rw [framesRead_append, framesRead_append, framesRead_singleton, read, read']
          by_cases on : s.epoch = epoch
          · rw [if_pos on, if_pos on, ← on]
            exact longer
          · rw [if_neg on, if_neg on, List.append_nil, List.append_nil]
            exact frames epoch

/-- **Junk goes unnoticed.** Junk is what an established connection brings that is no frame, a sign
of life, a notification about something else, or one whose payload cannot be understood. A moment at
which it is read changes nothing and does nothing. So two runs that differ only by such moments, at
any places and in any number, lead to the same session and do the same: they publish the same
snapshots, tell the local player the same, write the same frames, tell others of the same changes,
and the device is ready on the same connections. Junk can be read wherever a frame is read, and
whatever junk is put between the frames that are sent, the session can go on as it does without. -/
theorem junk_goes_unnoticed (run : Run config now ms s) :
    (∀ m ∈ ms, m.isJunk = true ↔ ∃ text, m.before.stage = .reading ∧
      m.input = .received (.text text) ∧ Junk config.userId text) ∧
    (∀ m ∈ ms, m.isJunk = true → m.after = m.before ∧ m.effects = []) ∧
    (∀ ms' s', Run config now ms' s' →
      (earnest ms').map (·.input) = (earnest ms).map (·.input) →
      s' = s ∧ earnest ms' = earnest ms ∧
      ms'.flatMap (·.effects) = ms.flatMap (·.effects) ∧
      publications ms' = publications ms ∧ told ms' = told ms ∧ written ms' = written ms ∧
      replies (written ms') = replies (written ms) ∧
      notices ms' = notices ms ∧ readiness ms' = readiness ms) ∧
    (∀ past rest here text, ms = past ++ rest → Run config now past here →
      here.stage = .reading → Junk config.userId text →
      Run config now (past ++ ⟨here, .received (.text text), here, []⟩ :: rest) s) ∧
    ∀ sent : Nat → List String,
      (∀ epoch, withoutJunk config.userId (framesRead ms epoch) <+:
        withoutJunk config.userId (sent epoch)) →
      ∃ ms', Run config now ms' s ∧ earnest ms' = earnest ms ∧
        ∀ epoch, framesRead ms' epoch <+: sent epoch := by
  refine ⟨?_, fun m mem junk => run.idle_of_isJunk mem junk, ?_, ?_, fun sent => run.padded⟩
  · intro m mem
    rw [Moment.isJunk_iff, run.config_of_mem mem]
  · intro ms' s' run' alike
    obtain ⟨same, rfl⟩ := run.earnest.unique run'.earnest alike
    have seen {α : Type} (f : Moment → List α)
        (silent : ∀ m : Moment, m.after = m.before → m.effects = [] → f m = []) :
        ms'.flatMap f = ms.flatMap f := by
      rw [← run'.flatMap_earnest silent, same, run.flatMap_earnest silent]
    have read_off {α : Type} (f : Effect → Option α) :
        ms'.flatMap (·.effects.filterMap f) = ms.flatMap (·.effects.filterMap f) := by
      apply seen
      intro m _ nothing
      rw [nothing, List.filterMap_nil]
    have frames : written ms' = written ms := read_off Effect.frame?
    refine ⟨rfl, same, seen _ fun m _ nothing => nothing, read_off Effect.snapshot?,
      read_off Effect.event?, frames, congrArg replies frames, read_off Effect.notice?, ?_⟩
    exact seen Moment.turns fun m still _ => if_pos (congrArg connectionId? still)
  · intro past rest here text split earlier stage junk
    exact run.insert split earlier stage junk

/-- A notification with one plain payload. -/
def notificationText (uri payload : String) : String :=
  (Json.ofMembers [("type", .string "message"), ("uri", .string uri),
    ("payloads", .array [.string payload])]).text

/-- Frames that are sent to an established connection: a request among junk of all kinds. -/
def noise : List String := ["[", pingText, notificationText "hm://other" "",
  requestText "pause", notificationText Topic.clusterStart "!",
  notificationText Topic.clusterStart "", notificationText "hm://collection/x/json" "[1]"]

/-- A pause is told and replied to among junk as it is without. -/
theorem pause_among_noise : ∃ ms s ms' rest, Run sampleConfig 0 ms s ∧
    framesRead ms 1 = [requestText "pause"] ∧ Run sampleConfig 0 ms' s ∧
    framesRead ms' 1 = "[" :: rest ∧ framesRead ms' 1 <+: noise ∧
    (told ms').map Event.name = ["pause"] ∧ replies (written ms') = [replyText "pause" true] := by
  have seen : (replay? sampleConfig 0 (joining "one" {} ++
      [.received (.text (requestText "pause")), .delivered true, .write, .wrote true])).map
      (fun run => (framesRead run.1 1, (told run.1).map Event.name, replies (written run.1))) =
      some ([requestText "pause"], ["pause"], [replyText "pause" true]) := by decide +kernel
  obtain ⟨⟨ms, s⟩, replayed, seen⟩ := Option.map_eq_some_iff.mp seen
  simp only [Prod.mk.injEq] at seen
  obtain ⟨read, told, replied⟩ := seen
  have run : Run sampleConfig 0 ms s := Run.of_replay? replayed
  obtain ⟨-, -, alike, -, padded⟩ := junk_goes_unnoticed run
  have worth : withoutJunk sampleConfig.userId noise = [requestText "pause"] := by decide +kernel
  have kept : withoutJunk sampleConfig.userId [requestText "pause"] = [requestText "pause"] := by
    rw [← worth, withoutJunk, withoutJunk, List.filter_filter]
    simp only [Bool.and_self]
  let sent (epoch : Nat) : List String := if epoch = 1 then noise else framesRead ms epoch
  have begins (epoch : Nat) : withoutJunk sampleConfig.userId (framesRead ms epoch) =
      withoutJunk sampleConfig.userId (sent epoch) := by
    by_cases on : epoch = 1
    · rw [show sent epoch = noise from if_pos on, on, read, kept, worth]
    · rw [show sent epoch = framesRead ms epoch from if_neg on]
  obtain ⟨ms', run', same, frames⟩ := padded sent fun epoch => begins epoch ▸ List.prefix_rfl
  obtain ⟨-, -, -, -, told', -, replied', -⟩ := alike ms' s run' (congrArg _ same)
  have begins : framesRead ms' 1 <+: noise := frames 1
  -- the pause was read, and so was what comes before it
  have paused : withoutJunk sampleConfig.userId (framesRead ms' 1) = [requestText "pause"] := by
    rw [← run'.framesRead_earnest, same, run.framesRead_earnest, read, kept]
  cases first : framesRead ms' 1 with
  | nil =>
    rw [first] at paused
    cases paused
  | cons text rest =>
    rw [first] at begins
    obtain ⟨rfl, -⟩ := List.cons_prefix_cons.mp begins
    exact ⟨ms, s, ms', rest, run, read, run', first, first ▸ begins, told' ▸ told,
      replied' ▸ replied⟩

end RemotePlayback.Session
