import Mathlib.Data.List.Forall2
import RemotePlayback.Proofs.Item
import RemotePlayback.Proofs.Playback.Queue

/-! Going on with what another device plays.

The request to the local player is made from the snapshot, and the snapshot from the cluster, of
which any part may be missing or be no URI. What the request is to say is told here of the cluster
alone: `GoesOn` has one field for each part of the request. There is a request if and only if the
track has a name, and then its context can be read, since either URI in it was written for something
that had been read before. -/

namespace RemotePlayback

namespace Item

variable {i : Item} {s : String}

/-- An empty URI names nothing, so nothing is lost by leaving it out. -/
theorem ofOptionalUri?_some (s : String) : ofOptionalUri? (some s) = ofUri? s := by
  by_cases empty : s = ""
  · subst empty
    decide
  · simp [ofOptionalUri?, Text.nonEmpty?, empty]

theorem ofOptionalUri?_eq_some_iff {o : Option String} :
    ofOptionalUri? o = some i ↔ ∃ s, o = some s ∧ ofUri? s = some i := by
  cases o with
  | none => simp [ofOptionalUri?]
  | some s => simp [ofOptionalUri?_some]

end Item

namespace Playback

variable {c : Cluster.State} {p : Cluster.PlayerState} {t : Cluster.ProvidedTrack} {track : Item}
  {id : String} {now : Int64}

/-! ## What the cluster shows -/

/-- **A cluster shows a track**: its player is at one, and the URI of that can be read. -/
structure Shows (c : Cluster.State) (p : Cluster.PlayerState) (t : Cluster.ProvidedTrack)
    (track : Item) : Prop where
  player : c.playerState = some p
  current : p.track = some t
  named : Item.ofUri? t.uri = some track

/-- **What is repeated**, by the options of a player. The track goes before the context. -/
inductive Repeats : Option Cluster.PlayerOptions → Repeat → Prop where
  | track {o} (on : o.repeatingTrack = true) : Repeats (some o) .track
  | context {o} (other : o.repeatingTrack = false) (on : o.repeatingContext = true) :
      Repeats (some o) .context
  | nothing {o} (noTrack : o.repeatingTrack = false) (noContext : o.repeatingContext = false) :
      Repeats (some o) .none
  | absent : Repeats none .none

theorem repeats_ofOptions (o : Option Cluster.PlayerOptions) : Repeats o (Repeat.ofOptions o) := by
  cases o with
  | none => exact .absent
  | some o =>
    by_cases track : o.repeatingTrack = true
    · simpa [Repeat.ofOptions, track] using Repeats.track track
    · by_cases context : o.repeatingContext = true
      · simpa [Repeat.ofOptions, track, context] using
          Repeats.context (by simpa using track) context
      · simpa [Repeat.ofOptions, track, context] using
          Repeats.nothing (by simpa using track) (by simpa using context)

/-- **A track of the queue as the cluster lists it**; an empty uid is none. -/
structure IsListed (t : Cluster.ProvidedTrack) (q : QueuedTrack) : Prop where
  uri : q.uri = t.uri
  uid : ∀ uid, q.uid = some uid ↔ t.uid = uid ∧ uid ≠ ""
  provider : q.provider = t.provider
  metadata : q.metadata = t.metadata

theorem isListed_ofProvided (t : Cluster.ProvidedTrack) :
    IsListed t (QueuedTrack.ofProvided t) :=
  ⟨rfl, fun _ => Text.nonEmpty?_eq_some_iff, rfl, rfl⟩

/-- The tracks of the user are picked out of the snapshot as they are out of the cluster. -/
theorem queuedTracks_listed (ts : List Cluster.ProvidedTrack) :
    List.Forall₂ IsListed (ts.filter (·.provider = "queue"))
      ((ts.map QueuedTrack.ofProvided).filter QueuedTrack.isUserQueued) := by
  have picked : (ts.map QueuedTrack.ofProvided).filter QueuedTrack.isUserQueued =
      (ts.filter (·.provider = "queue")).map QueuedTrack.ofProvided := by
    rw [List.filter_map]
    rfl
  rw [picked, List.forall₂_map_right_iff]
  exact List.forall₂_same.mpr fun t _ => isListed_ofProvided t

/-! ## The request -/

/-- **A request to go on with what a player plays** at a track, from a position. -/
structure GoesOn (p : Cluster.PlayerState) (t : Cluster.ProvidedTrack) (track : Item)
    (position : Span) (play : PlayRequest) : Prop where
  /-- The context is that of the player, if that can be read. -/
  context : ∀ context, Item.ofUri? p.contextUri = some context →
    Item.ofUri? play.contextUri = some context
  /-- Else it is the track. -/
  alone : Item.ofUri? p.contextUri = none → Item.ofUri? play.contextUri = some track
  track : play.trackUri = some track
  uid : ∀ uid, play.trackUid = some uid ↔ t.uid = uid ∧ uid ≠ ""
  index : play.trackIndex = p.index.map (·.track)
  position : play.position = some position
  paused : play.paused = p.isPaused
  shuffling : ∃ on, play.shuffling = some on ∧
    (on = true ↔ ∃ o, p.options = some o ∧ o.shufflingContext = true)
  repeats : ∃ mode, play.repeat = some mode ∧ Repeats p.options mode
  /-- The queue has the next tracks that the user put there, in their order. -/
  queue : List.Forall₂ IsListed (p.nextTracks.filter (·.provider = "queue")) play.queue

namespace Snapshot

theorem trackUri_ofCluster :
    (ofCluster c id).trackUri = some track ↔ ∃ p t, Shows c p t track := by
  unfold ofCluster
  cases player : c.playerState with
  | none =>
    refine iff_of_false nofun ?_
    rintro ⟨p, t, shows⟩
    cases player.symm.trans shows.player
  | some p =>
    dsimp only
    rw [Item.ofOptionalUri?_eq_some_iff]
    constructor
    · rintro ⟨s, there, named⟩
      obtain ⟨t, current, rfl⟩ := Option.map_eq_some_iff.mp there
      exact ⟨p, t, player, current, named⟩
    · rintro ⟨p', t, shows⟩
      cases player.symm.trans shows.player
      exact ⟨t.uri, by rw [shows.current, Option.map_some], shows.named⟩

/-- What is written for a context that was read, or for the track, can be read. -/
theorem ofUri?_context (named : Item.ofUri? t.uri = some track) (uri : String) :
    Item.ofUri? ((Item.ofUri? uri).getD track).uri = some ((Item.ofUri? uri).getD track) := by
  cases read : Item.ofUri? uri with
  | none => exact Item.ofUri?_uri named
  | some context => exact Item.ofUri?_uri read

/-- **Where a cluster shows a track, the request is to go on with it.** -/
theorem takeover?_of_shows (shows : Shows c p t track) (id : String) (now : Int64) :
    ∃ play, (ofCluster c id).takeover? now = some play ∧
      GoesOn p t track ((ofCluster c id).positionAt now) play := by
  have there : (ofCluster c id).trackUri = some track := trackUri_ofCluster.mpr ⟨p, t, shows⟩
  have again := ofUri?_context shows.named p.contextUri
  generalize position : (ofCluster c id).positionAt now = at_
  refine ⟨_, by rw [takeover?, there, position, Option.map_some], ?_⟩
  simp only [ofCluster, shows.player, shows.current, Item.ofOptionalUri?_some, Option.bind_some]
  exact {
    context := fun context read => by rw [again, read, Option.getD_some]
    alone := fun unread => by rw [again, unread, Option.getD_none]
    track := rfl
    uid := fun _ => Text.nonEmpty?_eq_some_iff
    index := rfl
    position := rfl
    paused := rfl
    shuffling := ⟨_, rfl, by cases p.options <;> simp⟩
    repeats := ⟨_, rfl, repeats_ofOptions p.options⟩
    queue := queuedTracks_listed p.nextTracks }

/-- **Taking over goes on with what the cluster shows.** Whatever is missing in a cluster or cannot
be read, there is a request exactly where it shows a track. The request is to go on with that track
at the position of the time; its context is that of the cluster if that can be read and else the
track, so it can always be read; all else is as the cluster has it. -/
theorem takeover_goes_on (c : Cluster.State) (id : String) (now : Int64) :
    (∀ play, (ofCluster c id).takeover? now = some play → ∃ p t track, Shows c p t track) ∧
    ∀ p t track, Shows c p t track →
      ∃ play, (ofCluster c id).takeover? now = some play ∧
        GoesOn p t track ((ofCluster c id).positionAt now) play ∧
        ∃ context, Item.ofUri? play.contextUri = some context := by
  refine ⟨fun play asked => ?_, fun p t track shows => ?_⟩
  · obtain ⟨track, there, -⟩ := Option.map_eq_some_iff.mp asked
    obtain ⟨p, t, shows⟩ := trackUri_ofCluster.mp there
    exact ⟨p, t, track, shows⟩
  · obtain ⟨play, asked, goesOn⟩ := takeover?_of_shows shows id now
    refine ⟨play, asked, goesOn, ?_⟩
    cases read : Item.ofUri? p.contextUri with
    | none => exact ⟨track, goesOn.alone read⟩
    | some context => exact ⟨context, goesOn.context context read⟩

/-- A player in a playlist that is named with its owner, at a track without a uid. -/
def ownedPlaylist : Cluster.PlayerState where
  contextUri := "spotify:user:bob:playlist:37i9dQZF1DXcBWIGoYBM5M"
  track := some { uri := " spotify:track:4uLU6hMCjMI75M1A2tKUQC" }
  options := some { repeatingTrack := true, repeatingContext := true }
  nextTracks := [{ uri := "spotify:track:a", uid := "1", provider := "queue" },
    { uri := "spotify:track:b", provider := "context" }, { uri := "?", provider := "queue" }]

/-- The playlist is taken over under its own name. -/
theorem owned_playlist_is_taken_over :
    let c : Cluster.State := { playerState := some ownedPlaylist }
    let track : Item := ⟨.track, "4uLU6hMCjMI75M1A2tKUQC"⟩
    let playlist : Item := ⟨.playlist, "37i9dQZF1DXcBWIGoYBM5M"⟩
    ∃ play p t, (ofCluster c "this").takeover? 0 = some play ∧ Shows c p t track ∧
      Item.ofUri? play.contextUri = some playlist ∧ play.trackUri = some track ∧
      play.trackUid = none ∧ play.repeat = some .track ∧
      List.Forall₂ IsListed [ownedPlaylist.nextTracks[0], ownedPlaylist.nextTracks[2]]
        play.queue ∧
      ∃ p t track, Shows c p t track := by
  intro c track playlist
  obtain ⟨asks, answers⟩ := takeover_goes_on c "this" 0
  have shows : Shows c ownedPlaylist { uri := " spotify:track:4uLU6hMCjMI75M1A2tKUQC" } track :=
    ⟨rfl, rfl, by decide +kernel⟩
  have read : Item.ofUri? ownedPlaylist.contextUri = some playlist := by decide +kernel
  obtain ⟨play, asked, goesOn, -⟩ := answers _ _ _ shows
  refine ⟨play, _, _, asked, shows, goesOn.context _ read, goesOn.track, ?_, ?_, goesOn.queue,
    asks play asked⟩
  · refine Option.eq_none_iff_forall_ne_some.mpr fun uid there => ?_
    obtain ⟨same, notEmpty⟩ := (goesOn.uid uid).mp there
    exact notEmpty same.symm
  · obtain ⟨mode, there, repeats⟩ := goesOn.repeats
    cases repeats with
    | track => exact there
    | context other => cases other
    | nothing other => cases other

end Snapshot

end Playback

end RemotePlayback
