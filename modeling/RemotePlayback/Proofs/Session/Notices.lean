import Mathlib.Data.List.Basic
import RemotePlayback.Proofs.Broadcast
import RemotePlayback.Proofs.Collection
import RemotePlayback.Proofs.Dealer.Payload
import RemotePlayback.Proofs.Session.Freshness

/-! What subscribers hear of changes of the collection.

A session sends the changes of a push one after the other, in the order of the payload, and does not
wait for anybody in between. The last 64 of them are kept for each subscriber. So a subscriber
that is never more than 64 changes behind hears each of them once and in order, and this holds
whatever else is sent meanwhile and whenever the subscriber looks; but a push may carry more changes
than are kept, and then it depends on the schedule alone whether the first ones are heard of. -/

namespace RemotePlayback.Session

open Playback Dealer Broadcast Simulation
open Collection (savedTracks savedChange)

variable {config : Config} {now : Int64} {ms past since : List Moment} {m : Moment} {s : Session}
  {text uri : String} {headers : Headers} {payload : Bytes} {changes : List Collection.Change}

/-! ## Pushes -/

/-- The change that an effect tells of. -/
def Effect.change? : Effect → Option Collection.Change
  | .collectionChanged c => some c
  | _ => none

/-- **The changes that are sent** to the subscribers. -/
def changesSent (ms : List Moment) : List Collection.Change :=
  ms.flatMap fun m => m.effects.filterMap Effect.change?

theorem changesSent_cons (m : Moment) (ms : List Moment) :
    changesSent (m :: ms) = m.effects.filterMap Effect.change? ++ changesSent ms := rfl

/-- **A push of changes** is read on an established connection. -/
structure Moment.Collects (m : Moment) (changes : List Collection.Change) : Prop where
  stage : m.before.stage = .reading
  read : ∃ text uri headers payload, m.input = .received (.text text) ∧
    Frame.read text = .ok (.notification uri headers payload) ∧
    Topic.ofUri uri m.before.config.userId = .collection ∧
    Collection.decode payload = .ok changes

/-- What comes of such a push: its changes are sent, and the session is as it was. -/
theorem step?_of_collection (stage : s.stage = .reading)
    (read : Frame.read text = .ok (.notification uri headers payload))
    (topic : Topic.ofUri uri s.config.userId = .collection)
    (decoded : Collection.decode payload = .ok changes) :
    s.step? (.received (.text text)) = some (s, changes.map .collectionChanged) := by
  have handled : s.handle text = (s, changes.map .collectionChanged) := by
    simp only [handle, read, notify, topic, decoded]
  show s.received? (.text text) = _
  simp only [received?, stage, handled]

theorem filterMap_collectionChanged (changes : List Collection.Change) :
    (changes.map Effect.collectionChanged).filterMap Effect.change? = changes := by
  rw [List.filterMap_map]
  exact List.filterMap_some

theorem Moment.Collects.sends (h : m.Collects changes)
    (step : m.before.step? m.input = some (m.after, m.effects)) :
    m.after = m.before ∧ m.effects.filterMap Effect.change? = changes := by
  obtain ⟨stage, text, uri, headers, payload, input, read, topic, decoded⟩ := h
  rw [input, step?_of_collection stage read topic decoded] at step
  obtain ⟨after, effects⟩ := Prod.mk.inj (Option.some.inj step)
  rw [← after, ← effects]
  exact ⟨rfl, filterMap_collectionChanged changes⟩

/-! ## Subscribers -/

/-- **Changes reach whoever keeps up.** What is sent at a push is what its payload says. Take a
subscriber that has read everything before, and any schedule by which the changes from there on are
sent and the subscriber looks. If the subscriber keeps up, it hears these changes, each once and in
order; it does so whatever the schedule if there are no more of them than are kept. In any case it
is told of those that it missed, by their number and where they were missing, and behind them of as
many as are kept. If it does not look while the changes of the push are sent, it hears the last ones
that are kept. -/
theorem changes_reach_whoever_keeps_up (run : Run config now ms s)
    (split : ms = past ++ m :: since) (collects : m.Collects changes) :
    m.after = m.before ∧ changesSent [m] = changes ∧
    (∀ turns heard r, sent turns = changesSent (m :: since) →
      ({} : Receiver Collection.Change).follow turns = (heard, r) →
        (KeepsUp 0 turns → ∃ got, heard = got.map .value ∧ r.missed = 0 ∧
          got ++ r.waiting = changes ++ changesSent since) ∧
        ((changesSent (m :: since)).length ≤ kept → KeepsUp 0 turns) ∧
        (∃ told gone, Tells heard told ∧ gone.length = r.missed ∧
          told ++ gone ++ r.waiting = changes ++ changesSent since) ∧
        r.waiting.length ≤ kept ∧ (0 < r.missed → r.waiting.length = kept)) ∧
    ∀ k, kept < k →
      ({} : Receiver Collection.Change).follow (changes.map .sent ++ List.replicate k .look) =
        (lossOf (received changes).1 ++ (received changes).2.map .value, {}) := by
  obtain ⟨after, effects⟩ := collects.sends (run.moment split).2
  have here : changesSent (m :: since) = changes ++ changesSent since := by
    rw [changesSent_cons, effects]
  have alone : changesSent [m] = changes := by
    rw [changesSent_cons, effects]
    exact List.append_nil _
  refine ⟨after, alone, fun turns heard r all followed => ?_, fun k => follow_late changes⟩
  obtain ⟨rfl, rfl⟩ := Prod.mk.inj followed
  rw [here] at all ⊢
  refine ⟨fun keepsUp => ?_, fun few => ?_, ?_, (full_new.follow turns).bounded,
    (full_new.follow turns).full⟩
  · obtain ⟨got, heard, none, whole⟩ := keepsUp.follow (r := {}) rfl
    exact ⟨got, heard, none, whole.trans all⟩
  · exact keepsUp_of_length_le (by rwa [Nat.zero_add, all])
  · obtain ⟨told, gone, tells, size, whole⟩ := follow_tells turns full_new [] rfl
    exact ⟨told, gone, tells, size, whole.trans all⟩

/-! ## Pushes of many changes -/

/-- The push of an update. -/
def collectionText (update : Json) : String :=
  Frame.messageText "hm://collection/collection/bob/json" Table.empty
    [.string (String.ofList (Base64.encode update.bytes))]

theorem read_collectionText (update : Json) :
    Frame.read (collectionText update) =
      .ok (.notification "hm://collection/collection/bob/json" Table.empty update.bytes) := by
  have carries := Frame.Carries.chunk update.bytes .nil
  rw [List.append_nil] at carries
  have message : Frame.IsMessage (collectionText update) "hm://collection/collection/bob/json"
      Table.empty [.string (String.ofList (Base64.encode update.bytes))] :=
    ⟨_, Frame.hasParts_messageText (carries.readable _), rfl, rfl, rfl, rfl⟩
  have push : ¬Frame.Handshakes "hm://collection/collection/bob/json" Table.empty := by
    rw [← Frame.handshakes_iff]
    decide
  have plain : ¬Frame.Compressed Table.empty := by
    rw [← Frame.isCompressed_iff]
    decide
  rw [message.read push, Frame.messagePayload_plain plain carries]
  rfl

/-- A connection is established, and such a push can be read on it. -/
theorem exists_collects (ids : List String) (valid : ∀ id ∈ ids, Item.isBase62 id = true) :
    ∃ ms m, Run sampleConfig 0 (ms ++ [m]) m.after ∧ m.Collects (ids.map savedChange) := by
  have told : (replay? sampleConfig 0 (joining "one" (playing "phone" 500))).map (fun run =>
      (run.2.stage == .reading, run.2.config.userId)) = some (true, none) := by decide +kernel
  obtain ⟨⟨ms, s⟩, replayed, told⟩ := Option.map_eq_some_iff.mp told
  obtain ⟨reading, user⟩ := Prod.mk.inj told
  have stage : s.stage = .reading := by simpa using reading
  have topic : Topic.ofUri "hm://collection/collection/bob/json" s.config.userId = .collection := by
    rw [user]
    decide
  have read := read_collectionText (savedTracks ids)
  have decoded := Collection.decode_savedTracks valid
  have step := step?_of_collection stage read topic decoded
  exact ⟨ms, _, (Run.of_replay? replayed).step step, stage, _, _, _, _, rfl, read, topic, decoded⟩

/-- Two tracks, looked for while they are sent. -/
theorem two_changes_are_heard :
    let first := savedChange "0000000000000000000000"
    let second := savedChange "1111111111111111111111"
    ∃ ms m, Run sampleConfig 0 (ms ++ [m]) m.after ∧ m.Collects [first, second] ∧
      sent [.sent first, .look, .sent second, .look] = changesSent [m] ∧
      ({} : Receiver Collection.Change).follow [.sent first, .look, .sent second, .look] =
        ([.value first, .value second], {}) := by
  intro first second
  obtain ⟨ms, m, run, collects⟩ : ∃ ms m, Run sampleConfig 0 (ms ++ [m]) m.after ∧
      m.Collects [first, second] :=
    exists_collects ["0000000000000000000000", "1111111111111111111111"] (by decide)
  obtain ⟨-, sends, subscriber, -⟩ := changes_reach_whoever_keeps_up run rfl collects
  obtain ⟨hears, keepsUp, -⟩ :=
    subscriber [.sent first, .look, .sent second, .look] _ _ sends.symm rfl
  obtain ⟨got, heard, -, whole⟩ := hears (keepsUp (by rw [sends]; decide))
  rw [changesSent, List.flatMap_nil, List.append_nil] at whole
  have all : got = [first, second] := (List.append_nil got).symm.trans whole
  rw [all] at heard
  exact ⟨ms, m, run, collects, sends.symm, Prod.ext heard rfl⟩

/-- One change more than are kept; the first one tells of a track of its own. -/
def manyTracks : List String :=
  "0000000000000000000000" :: List.replicate kept "1111111111111111111111"

theorem manyTracks_valid : ∀ id ∈ manyTracks, Item.isBase62 id = true := by
  intro id mem
  rcases List.mem_cons.mp mem with rfl | mem
  · decide
  · rw [List.eq_of_mem_replicate mem]
    decide

/-- **A push of more changes than are kept**: a subscriber that has read everything before, but does
not look while they are sent, is told that it missed one. It hears the others, and never of the
first. -/
theorem first_change_is_missed :
    let changes := manyTracks.map savedChange
    let heard := .lost 1 ::
      List.replicate kept (.value (savedChange "1111111111111111111111"))
    ∃ ms m, Run sampleConfig 0 (ms ++ [m]) m.after ∧ m.Collects changes ∧
      ∃ turns, sent turns = changesSent [m] ∧
        ({} : Receiver Collection.Change).follow turns = (heard, {}) ∧
        .value (savedChange "0000000000000000000000") ∉ heard ∧ heard ≠ changes.map .value := by
  intro changes heard
  obtain ⟨ms, m, run, collects⟩ := exists_collects manyTracks manyTracks_valid
  have sends : changesSent [m] = changes := by
    rw [changesSent_cons, (collects.sends (run.moment rfl).2).2]
    exact List.append_nil _
  refine ⟨ms, m, run, collects, changes.map .sent ++ List.replicate (kept + 1) .look, ?_, ?_, ?_,
    ?_⟩
  · rw [sends, sent_append, sent_map, sent_looks, List.append_nil]
  · have late := follow_late changes (Nat.lt_succ_self kept)
    have missed : received changes =
        (1, List.replicate kept (savedChange "1111111111111111111111")) := by
      simp [received, changes, manyTracks]
    rw [late, missed]
    simp [lossOf, heard]
  · intro mem
    rcases List.mem_cons.mp mem with eq | mem
    · cases eq
    · exact absurd (List.eq_of_mem_replicate mem) (by simp [savedChange])
  · intro eq
    cases (List.cons.inj eq).1

end RemotePlayback.Session
