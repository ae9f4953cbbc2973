import RemotePlayback.Playback.Snapshot
import RemotePlayback.Proofs.Cluster.RoundTrip
import RemotePlayback.Proofs.Wire.UnknownFields

/-! The service may send more than is declared.

A service that knows more fields than this device may put them anywhere: before, between and behind
the declared fields, in a message or in the messages nested in it, and in the entries of its maps.
The message that is decoded is the one that was meant, and so is the snapshot that is made of it. -/

namespace RemotePlayback.Cluster

open Wire Playback

/-! ## Snapshots -/

/-- What is settled of a cluster does not show in its snapshot. -/
theorem ofCluster_settled (c : State) (id : String) :
    Snapshot.ofCluster c.settled id = Snapshot.ofCluster c id := by
  obtain ⟨timestamp, activeDeviceId, playerState⟩ := c
  cases playerState <;> rfl

/-- The snapshot of the cluster in an update. -/
def Update.snapshot? (u : Update) (id : String) : Option Snapshot :=
  u.cluster.map (Snapshot.ofCluster · id)

theorem snapshot?_settled (u : Update) (id : String) : u.settled.snapshot? id = u.snapshot? id := by
  obtain ⟨cluster⟩ := u
  cases cluster with
  | none => rfl
  | some c => exact congrArg some (ofCluster_settled c id)

/-! ## Messages -/

/-- **Unknown fields do no harm** to a type of messages: a message may be written without them, and
with any of them, at any level, it is read back as it was written. -/
structure Tolerates (σ : Type) [Message σ] [Spelled .unknown σ] (settled : σ → σ) : Prop where
  encodes : ∀ m : σ, Encodes .unknown m (encode m)
  decode : ∀ (m : σ) (s : Bytes), Encodes .unknown m s → s.length < 2 ^ 64 →
    decode? s = some (settled m)

theorem tolerates {σ : Type} [Message σ] [Spelled .unknown σ]
    (deep : nesting .unknown σ ≤ maxDepth) : Tolerates σ (Spelled.settled .unknown) where
  encodes := encodes_encode .unknown
  decode _ _ encodes short := decodeAt?_encodes encodes short deep

/-- **Fields that are not declared change nothing.** Take an encoding of a message of any of the ten
types, with the entries of its maps in any order, and insert complete fields of undeclared numbers
between its records, at every level of it: it still decodes to that message, where a speed of
negative zero is read as zero. So neither a cluster nor its snapshot changes when the service adds
fields. -/
theorem unknown_fields_change_nothing :
    (Tolerates Update Update.settled ∧ Tolerates State State.settled ∧
      Tolerates PlayerState PlayerState.settled ∧ Tolerates TrackIndex id ∧
      Tolerates ProvidedTrack id ∧ Tolerates PlayerOptions id ∧
      Tolerates StateReport StateReport.settled ∧ Tolerates Device Device.settled ∧
      Tolerates DeviceInfo id ∧ Tolerates Capabilities id) ∧
    (∀ (u : Update) (s : Bytes) (id : String), Encodes .unknown u s → s.length < 2 ^ 64 →
      (decode? s : Option Update).map (·.snapshot? id) = some (u.snapshot? id)) ∧
    (∀ (c : State) (s : Bytes) (id : String), Encodes .unknown c s → s.length < 2 ^ 64 →
      (decode? s : Option State).map (Snapshot.ofCluster · id) =
        some (Snapshot.ofCluster c id)) := by
  have updates : Tolerates Update Update.settled := tolerates (by decide)
  have states : Tolerates State State.settled := tolerates (by decide)
  refine ⟨⟨updates, states, tolerates ?_, tolerates ?_, tolerates ?_, tolerates ?_, tolerates ?_,
    tolerates ?_, tolerates ?_, tolerates ?_⟩, ?_, ?_⟩
  case refine_9 =>
    intro u s id encodes short
    rw [updates.decode u s encodes short, Option.map_some, snapshot?_settled]
  case refine_10 =>
    intro c s id encodes short
    rw [states.decode c s encodes short, Option.map_some, ofCluster_settled]
  all_goals decide

/-- What a newer service may send when a phone takes over: fields that are not declared stand before
the cluster in the update, and before and behind the active device in the cluster. -/
theorem newer_service_is_understood :
    let phone : Update := { cluster := some { activeDeviceId := "phone" } }
    ∃ s, Encodes .unknown phone s ∧ s ≠ encode phone ∧ decode? s = some phone := by
  intro phone
  let active : Nat × Payload := (2, .counted (Bytes.ofText "phone"))
  let state : Bytes := record (6, .fixed64 1) ++ (record active ++ (record (16, .fixed32 2) ++ []))
  let cluster : Nat × Payload := (1, .counted state)
  let update : Bytes := record (5, .counted [1, 2, 3]) ++ (record cluster ++ [])
  have unknown {tags : List Nat} {tag : Nat} {p : Payload} (undeclared : tag ∉ tags)
      (valid : 0 < tag ∧ tag < 2 ^ 29) (range : p.InRange) (short : p.body.length < 2 ^ 64) :
      Filler.unknown.Fills tags (record (tag, p)) :=
    ⟨tag, undeclared, complete_record valid.1 valid.2 range short⟩
  have inner : Encodes .unknown ({ activeDeviceId := "phone" } : State) state := by
    refine ⟨[active], ?_, .skip ?_ (.cons (.skip ?_ .nil))⟩
    -- no other field is written
    · refine ⟨[], [active], rfl, ⟨[.counted (Bytes.ofText "phone")], [], ?_, ?_, rfl⟩, rfl⟩
      · exact .cons rfl .nil
      · exact ⟨[], [], .nil, ⟨[], [], ⟨[], .refl _, .nil⟩, ⟨[], [], rfl, ⟨[], [], rfl,
          ⟨[], [], rfl, rfl, rfl⟩, rfl⟩, rfl⟩, rfl⟩, rfl⟩
    · exact unknown (by decide) (by decide) (show 1 < 2 ^ 64 by decide) (by decide)
    · exact unknown (by decide) (by decide) (show 2 < 2 ^ 32 by decide) (by decide)
  have outer : Encodes .unknown phone update := by
    refine ⟨[cluster], ?_, .skip ?_ (.cons .nil)⟩
    · exact ⟨[.counted state], [], .cons inner .nil, ⟨[], [], rfl, ⟨[], [], .nil,
        ⟨[], [], .nil, rfl, rfl⟩, rfl⟩, rfl⟩, rfl⟩
    · exact unknown (by decide) (by decide) trivial (by decide +kernel)
  obtain ⟨⟨updates, -⟩, -⟩ := unknown_fields_change_nothing
  refine ⟨update, outer, ?_, updates.decode _ _ outer ?_⟩
  · decide +kernel
  · decide +kernel

end RemotePlayback.Cluster
