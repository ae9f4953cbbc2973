import RemotePlayback.Cluster.Messages
import RemotePlayback.Proofs.Wire.Codecs

/-! The messages of the connect-state service are read back as they were written.

Each message is given the ways in which it may be written: those of its fields, in the order of the
fields. All that a message leaves open is the order in which the entries of its maps are written, at
any depth. Whatever it is, the message that is read back is the one that was written, but for the
sign of a playback speed of zero. -/

namespace RemotePlayback

namespace Cluster

/-! ## What is read back -/

/-- A playback state with only one zero for its speed. -/
def PlayerState.settled (m : PlayerState) : PlayerState :=
  { m with playbackSpeed := m.playbackSpeed.settled }

def Device.settled (m : Device) : Device :=
  { m with playerState := m.playerState.map PlayerState.settled }

def StateReport.settled (m : StateReport) : StateReport :=
  { m with device := m.device.map Device.settled }

def State.settled (m : State) : State :=
  { m with playerState := m.playerState.map PlayerState.settled }

def Update.settled (m : Update) : Update := { m with cluster := m.cluster.map State.settled }

end Cluster

namespace Wire

open Cluster

variable {filler : Filler}

/-! ## Spellings

When a field has its turn, its place is still as in the empty message; what is made up in the end is
the settled message. -/

instance : Spelled filler TrackIndex where
  slots := .field <| .field .nil
  builds m := by
    repeat refine And.intro rfl ?_
    exact rfl

instance : Spelled filler ProvidedTrack where
  slots := .field <| .field <| .field <| .field .nil
  builds m := by
    repeat refine And.intro rfl ?_
    cases m
    simp [Spelling.settled]

instance : Spelled filler PlayerOptions where
  slots := .field <| .field <| .field .nil
  builds m := by
    repeat refine And.intro rfl ?_
    exact rfl

instance : Spelled filler Capabilities where
  slots := .field <| .field <| .field <| .field <| .field <| .field <| .field <| .field <|
    .field <| .field <| .field <| .field <| .field .nil
  builds m := by
    repeat refine And.intro rfl ?_
    exact rfl

instance : Spelled filler DeviceInfo where
  slots := .field <| .field <| .field <| .field <| .field <| .field <| .field <| .field <|
    .field <| .field .nil
  builds m := by
    repeat refine And.intro rfl ?_
    cases m
    simp [Spelled.settled, Spelling.settled]

instance : Spelled filler PlayerState where
  slots := .field <| .field <| .field <| .field <| .field <| .field <| .field <| .field <|
    .field <| .field <| .field <| .field <| .field <| .field <| .field <| .field <| .field <|
    .field <| .field <| .field .nil
  settled := PlayerState.settled
  builds m := by
    repeat refine And.intro rfl ?_
    cases m
    simp [Spelled.settled, Spelling.settled, PlayerState.settled]

instance : Spelled filler Device where
  slots := .field <| .field .nil
  settled := Device.settled
  builds m := by
    repeat refine And.intro rfl ?_
    cases m
    simp [Spelled.settled, Spelling.settled, Device.settled]

instance : Spelled filler StateReport where
  slots := .field <| .field <| .field <| .field <| .field <| .field <| .field <| .field <|
    .field <| .field <| .field <| .field .nil
  settled := StateReport.settled
  builds m := by
    repeat refine And.intro rfl ?_
    cases m
    simp [Spelled.settled, Spelling.settled, StateReport.settled]

instance : Spelled filler State where
  slots := .field <| .field <| .field <| .field <| .field <| .field <| .field .nil
  settled := State.settled
  builds m := by
    repeat refine And.intro rfl ?_
    cases m
    simp [Spelled.settled, Spelling.settled, State.settled]

instance : Spelled filler Update where
  slots := .field <| .field <| .field <| .field .nil
  settled := Update.settled
  builds m := by
    repeat refine And.intro rfl ?_
    cases m
    simp [Spelled.settled, Spelling.settled, Update.settled]

/-! ## Reading back -/

/-- **A type of messages loses nothing** but what is settled: any encoding of a message is read
back, and what is written is one of them. -/
structure RoundTrips (σ : Type) [Message σ] [Spelled .none σ] (settled : σ → σ) : Prop where
  encodes : ∀ m : σ, Encodes .none m (encode m)
  decode : ∀ (m : σ) (s : Bytes), Encodes .none m s → s.length < 2 ^ 64 →
    decode? s = some (settled m)

theorem roundTrips {σ : Type} [Message σ] [Spelled .none σ] (deep : nesting .none σ ≤ maxDepth) :
    RoundTrips σ (Spelled.settled .none) where
  encodes := encodes_encode .none
  decode _ _ encodes short := decodeAt?_encodes encodes short deep

/-- **Every message is read back as it was written.** Each of the ten types has encodings for all
its values, one for every order in which the entries of its maps are written, and the value that any
of them decodes to is the one that was encoded, except that a playback speed of negative zero comes
back as zero. Lengths are written in 64 bits, enough for every byte string that a machine can hold.
-/
theorem messages_round_trip :
    RoundTrips Update Update.settled ∧ RoundTrips State State.settled ∧
    RoundTrips PlayerState PlayerState.settled ∧ RoundTrips TrackIndex id ∧
    RoundTrips ProvidedTrack id ∧ RoundTrips PlayerOptions id ∧
    RoundTrips StateReport StateReport.settled ∧ RoundTrips Device Device.settled ∧
    RoundTrips DeviceInfo id ∧ RoundTrips Capabilities id := by
  refine ⟨roundTrips ?_, roundTrips ?_, roundTrips ?_, roundTrips ?_, roundTrips ?_, roundTrips ?_,
    roundTrips ?_, roundTrips ?_, roundTrips ?_, roundTrips ?_⟩
  all_goals decide

/-- A track with two entries in its map. -/
def taggedTrack : ProvidedTrack where
  metadata := ⟨[("a", "1"), ("b", "2")], List.pairwise_pair.mpr (by decide)⟩

/-- The second entry may be written before the first, which gives other bytes but the same track. -/
theorem tagged_track_backwards : ∃ s, Encodes .none taggedTrack s ∧ s ≠ encode taggedTrack ∧
    decode? s = some taggedTrack := by
  let bytes (e : String × String) : Bytes := (Codec.entryFields Codec.text).flatMap (·.write e)
  let entries : List Payload := [.counted (bytes ("b", "2")), .counted (bytes ("a", "1"))]
  let records : List (Nat × Payload) := entries.map (3, ·)
  have encoded (e : String × String) : (entrySlots .none Codec.text).Encodes e (bytes e) :=
    (entrySlots .none Codec.text).encodes_flatMap_write e
  have encodes : Encodes .none taggedTrack (records.flatMap record) := by
    refine ⟨records, ?_, strewn_flatMap _ records⟩
    have backwards : [("b", "2"), ("a", "1")].Perm taggedTrack.metadata.entries := .swap ..
    -- the other fields are empty, and nothing is written for them
    refine ⟨[], records, .nil, ⟨[], records, .nil, ⟨entries, [], ⟨_, backwards, ?_⟩, ?_, rfl⟩, rfl⟩,
      rfl⟩
    · exact .cons (encoded _) (.cons (encoded _) .nil)
    · exact ⟨[], [], .nil, rfl, rfl⟩
  obtain ⟨-, -, -, -, tracks, -⟩ := messages_round_trip
  refine ⟨_, encodes, ?_, tracks.decode _ _ encodes ?_⟩
  · decide +kernel
  · decide +kernel

end Wire

end RemotePlayback
