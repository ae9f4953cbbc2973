import Mathlib.Data.List.Forall2
import RemotePlayback.Playback.Snapshot
import RemotePlayback.Proofs.Json.Records
import RemotePlayback.Proofs.Playback.Commands

/-!
Queues come back as they were shown.

The cluster lists the next tracks, the state shows them as JSON, and a command that sets the queue
carries them back. Each of the three forms has its own way to leave something out: an empty text, a
null, a member that is missing or of another type. `Gives` says which track a value gives, and
`ofJson_toJson` that a track that was shown is given back, whatever is in its metadata.

A queue is set as a whole: each element of the array gives a track (`ofItems_of_names`), or nothing
is done (`ofItems_of_not_names`).
-/

namespace RemotePlayback

namespace Text

theorem nonEmpty?_eq_some_iff {s s' : String} : nonEmpty? s = some s' ↔ s = s' ∧ s' ≠ "" := by
  rw [nonEmpty?]
  by_cases empty : s = ""
  · rw [if_pos empty]
    exact ⟨nofun, fun ⟨same, there⟩ => absurd (same ▸ empty) there⟩
  · rw [if_neg empty, Option.some.injEq]
    exact ⟨fun same => ⟨same, same ▸ empty⟩, And.left⟩

end Text

namespace Json

theorem bind_text?_eq_some_iff {o : Option Json} {s : String} :
    o.bind text? = some s ↔ o = some (.string s) := by
  simp [Option.bind_eq_some_iff, text?_eq_some_iff]

theorem bind_members?_eq_some_iff {o : Option Json} {ms : List (String × Json)} :
    o.bind members? = some ms ↔ o = some (.object ms) := by
  simp [Option.bind_eq_some_iff, members?_eq_some_iff]

end Json

namespace Playback

open Json

namespace QueuedTrack

variable {v : Json} {t : QueuedTrack}

/-! ## Tracks -/

/-- **A value that names a track**: it has a URI, which may be any text. -/
def Names (v : Json) : Prop := ∃ uri, v.member? "uri" = some (.string uri)

/-- **The track that a value gives.** The URI has to be there. An empty uid is none, and so is
anything else that is no text; a provider that is no text is empty. Of the metadata, texts are taken
as they are and everything else as its JSON text. -/
structure Gives (v : Json) (t : QueuedTrack) : Prop where
  uri : v.member? "uri" = some (.string t.uri)
  uid : ∀ uid, t.uid = some uid ↔ v.member? "uid" = some (.string uid) ∧ uid ≠ ""
  provider : (∃ p, v.member? "provider" = some (.string p) ∧ t.provider = p) ∨
    (∀ p, v.member? "provider" ≠ some (.string p)) ∧ t.provider = ""
  metadata : (∃ ms, v.member? "metadata" = some (.object ms) ∧
      ∀ k, t.metadata.find? k = (Entries.find? k (Entries.ofList ms)).map metadataText) ∨
    (∀ ms, v.member? "metadata" ≠ some (.object ms)) ∧ t.metadata = Table.empty

/-- **A value that names a track gives one.** -/
theorem ofJson_of_names (names : Names v) : ∃ t, ofJson v = .ok t ∧ Gives v t := by
  obtain ⟨uri, there⟩ := names
  refine ⟨_, by rw [ofJson, bind_text?_eq_some_iff.mpr there], there, fun uid => ?_, ?_, ?_⟩
  · refine Option.bind_eq_some_iff.trans ⟨?_, fun ⟨text, notEmpty⟩ => ?_⟩
    · rintro ⟨s, text, kept⟩
      obtain ⟨rfl, notEmpty⟩ := Text.nonEmpty?_eq_some_iff.mp kept
      exact ⟨bind_text?_eq_some_iff.mp text, notEmpty⟩
    · exact ⟨uid, bind_text?_eq_some_iff.mpr text, Text.nonEmpty?_eq_some_iff.mpr ⟨rfl, notEmpty⟩⟩
  · cases text : (v.member? "provider").bind Json.text? with
    | some p => exact .inl ⟨p, bind_text?_eq_some_iff.mp text, rfl⟩
    | none =>
      refine .inr ⟨fun p there => ?_, rfl⟩
      rw [bind_text?_eq_some_iff.mpr there] at text
      cases text
  · cases members : (v.member? "metadata").bind Json.members? with
    | some ms =>
      refine .inl ⟨ms, bind_members?_eq_some_iff.mp members, fun k => ?_⟩
      rw [← Entries.find?_map, ← Entries.ofList_map]
      rfl
    | none =>
      refine .inr ⟨fun ms there => ?_, rfl⟩
      rw [bind_members?_eq_some_iff.mpr there] at members
      cases members

theorem ofJson_of_not_names (nameless : ¬Names v) :
    ofJson v = .error (.missingField "track.uri") := by
  rw [ofJson]
  cases text : (v.member? "uri").bind Json.text? with
  | some uri => exact (nameless ⟨uri, bind_text?_eq_some_iff.mp text⟩).elim
  | none => rfl

/-- **A queue is taken as a whole.** -/
theorem ofItems_of_names {items : List Json} (names : ∀ v ∈ items, Names v) :
    ∃ ts, ofItems items = .ok ts ∧ List.Forall₂ Gives items ts := by
  induction items with
  | nil => exact ⟨[], rfl, .nil⟩
  | cons v items ih =>
    obtain ⟨first, rest⟩ := List.forall_mem_cons.mp names
    obtain ⟨t, read, gives⟩ := ofJson_of_names first
    obtain ⟨ts, more, all⟩ := ih rest
    exact ⟨t :: ts, by rw [ofItems, read, more]; rfl, .cons gives all⟩

/-- One element without a URI fails all of them. -/
theorem ofItems_of_not_names {items : List Json} (nameless : ∃ v ∈ items, ¬Names v) :
    ofItems items = .error (.missingField "track.uri") := by
  induction items with
  | nil => simp at nameless
  | cons v items ih =>
    rw [ofItems]
    by_cases first : Names v
    · obtain ⟨t, read, -⟩ := ofJson_of_names first
      have rest : ∃ v ∈ items, ¬Names v := by simpa [first] using nameless
      rw [read, ih rest]
      rfl
    · rw [ofJson_of_not_names first]
      rfl

/-! ## Listed and shown -/

/-- **A track that was shown is given back**, if its uid is not empty. -/
theorem ofJson_toJson (uid : t.uid ≠ some "") : ofJson t.toJson = .ok t := by
  have texts : (Json.ofText? t.uid).text? = t.uid := by cases t.uid <;> rfl
  have same : t.uid.bind Text.nonEmpty? = t.uid := by
    cases there : t.uid with
    | none => rfl
    | some u => exact Text.nonEmpty?_eq_some_iff.mpr ⟨rfl, fun empty => uid (empty ▸ there)⟩
  have back : (t.metadata.map Json.string).entries.map (fun e => (e.1, metadataText e.2)) =
      t.metadata.entries := by
    rw [Table.map, List.map_map]
    exact List.map_id _
  have uri : t.toJson.member? "uri" = some (.string t.uri) := rfl
  have uid : t.toJson.member? "uid" = some (Json.ofText? t.uid) := rfl
  have provider : t.toJson.member? "provider" = some (.string t.provider) := rfl
  have metadata : t.toJson.member? "metadata" = some (Json.ofTexts t.metadata) := rfl
  rw [ofJson, uri, uid, provider, metadata, Json.ofTexts, Option.bind_some, Option.bind_some, texts,
    same]
  simp only [Option.bind_some, Json.text?, Option.getD_some, Json.members?, back,
    Table.ofList_entries]

/-- The uid of a track that the cluster lists is not empty. -/
theorem uid_ofProvided (p : Cluster.ProvidedTrack) : (ofProvided p).uid ≠ some "" :=
  fun empty => (Text.nonEmpty?_eq_some_iff.mp empty).2 rfl

theorem ofItems_map_toJson {ts : List QueuedTrack} (uids : ∀ t ∈ ts, t.uid ≠ some "") :
    ofItems (ts.map toJson) = .ok ts := by
  induction ts with
  | nil => rfl
  | cons t ts ih =>
    obtain ⟨first, rest⟩ := List.forall_mem_cons.mp uids
    rw [List.map_cons, ofItems, ofJson_toJson first, ih rest]
    rfl

theorem readable_toJson (t : QueuedTrack) (depth : Nat) : Readable (depth + 2) t.toJson := by
  have keys : ["metadata", "provider", "uid", "uri"].Pairwise (· < ·) := by decide
  have uid : Readable (depth + 1) (Json.ofText? t.uid) := by cases t.uid <;> trivial
  exact ⟨Entries.sorted_iff_keys.mpr keys, readable_ofTexts depth t.metadata, trivial, uid,
    trivial, trivial⟩

theorem readable_map_toJson (ts : List QueuedTrack) (depth : Nat) :
    Readable (depth + 3) (.array (ts.map toJson)) := by
  induction ts with
  | nil => trivial
  | cons t ts ih => exact ⟨readable_toJson t depth, ih⟩

end QueuedTrack

/-! ## Instructions -/

open QueuedTrack

section Instructions

variable {r : Request} {items : List Json} {v : Json}

theorem Request.event_setQueue (endpoint : r.endpoint = .setQueue)
    (there : r.command.member? "next_tracks" = some (.array items)) :
    r.event = (ofItems items).map fun ts => some (.setQueue ts) := by
  rw [Request.event, endpoint]
  dsimp only
  rw [Request.required, there]
  change ofItems items >>= _ = _
  cases ofItems items <;> rfl

theorem Request.event_addToQueue (endpoint : r.endpoint = .addToQueue)
    (there : r.command.member? "track" = some v) :
    r.event = (ofJson v).map fun t => some (.addToQueue t) := by
  rw [Request.event, endpoint]
  dsimp only
  rw [Request.required, there]
  change ofJson v >>= _ = _
  cases ofJson v <;> rfl

end Instructions

/-- The tracks of a snapshot are those that the cluster lists. -/
theorem Snapshot.uid_of_mem {c : Cluster.State} {id : String} :
    ∀ t ∈ (Snapshot.ofCluster c id).nextTracks, t.uid ≠ some "" := by
  intro t mem
  rw [Snapshot.ofCluster] at mem
  cases player : c.playerState with
  | none =>
    rw [player] at mem
    cases mem
  | some p =>
    rw [player] at mem
    obtain ⟨listed, -, rfl⟩ := List.mem_map.mp mem
    exact uid_ofProvided listed

/-- The next tracks are shown as they are. -/
theorem Snapshot.member_nextTracks (s : Snapshot) :
    s.toJson.member? "next_tracks" = some (.array (s.nextTracks.map QueuedTrack.toJson)) := by
  have distinct : (s.toMembers.map (·.1)).Nodup := by
    simp only [Snapshot.toMembers, List.map_cons, List.map_nil]
    decide
  exact Entries.find?_ofList distinct "next_tracks"

/-- A command to set the queue. -/
def Command.setQueue (tracks : List QueuedTrack) : Command where
  name := "set_queue"
  parameters := [("next_tracks", .array (tracks.map toJson))]

/-- A command to add a track to the queue. -/
def Command.addToQueue (track : QueuedTrack) : Command where
  name := "add_to_queue"
  parameters := [("track", track.toJson)]

/-- **Queues come back as they were shown.** For every cluster, a command to set the queue to the
next tracks that the state shows sets it to exactly these, and a command to add one of them adds
that track; their texts can be read back, and every body that carries such a command is understood.
Of any array whatever, each element that names a track gives one, in their order; if one does not,
the command is refused and nothing is set. -/
theorem queues_come_back :
    (∀ (c : Cluster.State) (id : String),
      let s := Snapshot.ofCluster c id
      let queue := Json.array (s.nextTracks.map QueuedTrack.toJson)
      let set := (Command.setQueue s.nextTracks).envelope
      s.toJson.member? "next_tracks" = some queue ∧
      (∀ r : Request, r.endpoint = .setQueue → r.command.member? "next_tracks" = some queue →
        r.event = .ok (some (.setQueue s.nextTracks))) ∧
      Command.Carries set set.bytes 0 none ∧
      (∀ body messageId sentBy, Command.Carries set body messageId sentBy →
        ∃ r, Request.decode body = .ok r ∧ r.event = .ok (some (.setQueue s.nextTracks))) ∧
      ∀ t ∈ s.nextTracks,
        let add := (Command.addToQueue t).envelope
        (∀ r : Request, r.endpoint = .addToQueue → r.command.member? "track" = some t.toJson →
          r.event = .ok (some (.addToQueue t))) ∧
        Command.Carries add add.bytes 0 none ∧
        ∀ body messageId sentBy, Command.Carries add body messageId sentBy →
          ∃ r, Request.decode body = .ok r ∧ r.event = .ok (some (.addToQueue t))) ∧
    ∀ (r : Request) items, r.endpoint = .setQueue →
      r.command.member? "next_tracks" = some (.array items) →
        ((∀ v ∈ items, Names v) →
          ∃ ts, r.event = .ok (some (.setQueue ts)) ∧ List.Forall₂ Gives items ts) ∧
        ((∃ v ∈ items, ¬Names v) → r.event = .error (.missingField "track.uri")) := by
  refine ⟨fun c id => ?_, fun r items endpoint there => ⟨fun names => ?_, fun nameless => ?_⟩⟩
  · intro s queue set
    have sets (r : Request) (endpoint : r.endpoint = .setQueue)
        (there : r.command.member? "next_tracks" = some queue) :
        r.event = .ok (some (.setQueue s.nextTracks)) := by
      rw [Request.event_setQueue endpoint there, ofItems_map_toJson Snapshot.uid_of_mem]
      rfl
    refine ⟨s.member_nextTracks, sets, ?_, fun body messageId sentBy carries => ?_, ?_⟩
    · exact Command.carries_envelope
        (List.forall_mem_singleton.mpr (readable_map_toJson s.nextTracks 122))
    · obtain ⟨fields, parameters, decoded⟩ := carries.decode
      exact ⟨_, decoded, sets _ rfl (parameters.others "next_tracks" (by decide))⟩
    · intro t mem add
      have adds (r : Request) (endpoint : r.endpoint = .addToQueue)
          (there : r.command.member? "track" = some t.toJson) :
          r.event = .ok (some (.addToQueue t)) := by
        rw [Request.event_addToQueue endpoint there, ofJson_toJson (Snapshot.uid_of_mem t mem)]
        rfl
      refine ⟨adds, ?_, fun body messageId sentBy carries => ?_⟩
      · exact Command.carries_envelope (List.forall_mem_singleton.mpr (readable_toJson t 123))
      · obtain ⟨fields, parameters, decoded⟩ := carries.decode
        exact ⟨_, decoded, adds _ rfl (parameters.others "track" (by decide))⟩
  · obtain ⟨ts, read, gives⟩ := ofItems_of_names names
    refine ⟨ts, ?_, gives⟩
    rw [Request.event_setQueue endpoint there, read]
    rfl
  · rw [Request.event_setQueue endpoint there, ofItems_of_not_names nameless]
    rfl

/-- A cluster with two next tracks; the second one has no uid. -/
def twoNextTracks : Cluster.State where
  playerState := some { nextTracks := [
    { uri := "spotify:track:a", uid := "1", provider := "queue",
      metadata := Table.ofList [("title", "The \"first\" one")] },
    { uri := "spotify:track:b" }] }

/-- Both come back in the text of a command; a queue with a null in it is refused. -/
theorem two_tracks_come_back :
    let tracks := (Snapshot.ofCluster twoNextTracks "this").nextTracks
    tracks.map (·.uid) = [some "1", none] ∧
    (∃ r, Request.decode (Command.setQueue tracks).envelope.bytes = .ok r ∧
      r.event = .ok (some (.setQueue tracks))) ∧
    ∀ t ∈ tracks, Request.event
      ⟨0, none, .setQueue, .object [("next_tracks", .array [t.toJson, .null])]⟩ =
        .error (.missingField "track.uri") := by
  intro tracks
  obtain ⟨shown, whole⟩ := queues_come_back
  obtain ⟨-, -, carries, comesBack, -⟩ := shown twoNextTracks "this"
  refine ⟨rfl, comesBack _ 0 none carries, fun t _ => (whole _ _ rfl rfl).2 ?_⟩
  exact ⟨.null, List.mem_cons_of_mem _ List.mem_cons_self, fun ⟨_, there⟩ => nomatch there⟩

end Playback

end RemotePlayback
