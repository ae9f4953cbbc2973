import RemotePlayback.Playback.Snapshot

/-! The position of a player, at any time.

A snapshot holds where the player was at one time, and goes on from there. The numbers come from
other devices and may be anything that 64 bits hold, so two sums stop at the bounds of these, one
inside the other, before what is below zero counts as zero. Stopping at the bounds keeps the order
of numbers, which is all that the position over time needs, and changes none that fits. -/

namespace RemotePlayback.Playback.Snapshot

/-- A number that 64 bits hold, one of them for the sign. -/
def Fits64 (n : Int) : Prop := -2 ^ 63 ≤ n ∧ n ≤ 2 ^ 63 - 1

instance (n : Int) : Decidable (Fits64 n) := inferInstanceAs (Decidable (_ ∧ _))

theorem fits64_toInt (n : Int64) : Fits64 n.toInt := by
  have low := n.le_toInt
  have high := n.toInt_lt
  constructor <;> omega

/-! ## Stopping at the bounds -/

theorem fits64_saturate (n : Int) : Fits64 (saturate n) := by
  simp only [Fits64, saturate]
  omega

theorem saturate_of_fits {n : Int} (fits : Fits64 n) : saturate n = n := by
  obtain ⟨low, high⟩ := fits
  simp only [saturate]
  omega

theorem saturate_mono {m n : Int} (le : m ≤ n) : saturate m ≤ saturate n := by
  simp only [saturate]
  omega

/-- What is added to a number that fits is not lost altogether, unless it is below zero. -/
theorem le_saturate_add {m n : Int} (fits : Fits64 m) (nonneg : 0 ≤ n) : m ≤ saturate (m + n) := by
  calc m = saturate m := (saturate_of_fits fits).symm
    _ ≤ saturate (m + n) := saturate_mono (by omega)

variable {s : Snapshot} {now now' : Int64}

/-! ## The position of a snapshot -/

/-- The position in whole milliseconds. -/
def millisecondsAt (s : Snapshot) (now : Int64) : Int := (s.positionAt now).milliseconds

theorem fits64_rawPositionAt (s : Snapshot) (now : Int64) : Fits64 (s.rawPositionAt now) := by
  unfold rawPositionAt
  split
  · exact fits64_toInt _
  · exact fits64_saturate _

/-- A position has no fraction of a millisecond, and its milliseconds fit. -/
theorem positionAt_eq (s : Snapshot) (now : Int64) :
    s.positionAt now = Span.ofMilliseconds (s.millisecondsAt now).toNat ∧
      0 ≤ s.millisecondsAt now ∧ s.millisecondsAt now ≤ 2 ^ 63 - 1 := by
  obtain ⟨-, high⟩ := fits64_rawPositionAt s now
  unfold millisecondsAt positionAt
  split
  · rw [Span.milliseconds_ofMilliseconds]
    exact ⟨rfl, by omega, by omega⟩
  · decide

theorem millisecondsAt_eq (player : s.hasPlayerState = true) (now : Int64) :
    s.millisecondsAt now = max 0 (s.rawPositionAt now) := by
  simp only [millisecondsAt, positionAt, player, if_true, Span.milliseconds_ofMilliseconds]
  omega

/-- A player that is paused stays where it is. -/
theorem rawPositionAt_of_paused (paused : s.isPaused = true) (now : Int64) :
    s.rawPositionAt now = s.positionAsOf.toInt := by
  simp [rawPositionAt, paused]

theorem rawPositionAt_of_running (running : s.isPaused = false) (now : Int64) :
    s.rawPositionAt now =
      saturate (s.positionAsOf.toInt + saturate (now.toInt - s.timestamp.toInt)) := by
  simp [rawPositionAt, running]

/-- A player that is not paused only goes forward. -/
theorem rawPositionAt_mono (running : s.isPaused = false) (le : now ≤ now') :
    s.rawPositionAt now ≤ s.rawPositionAt now' := by
  rw [rawPositionAt_of_running running, rawPositionAt_of_running running]
  have later : now.toInt ≤ now'.toInt := Int64.le_iff_toInt_le.mp le
  have elapsed : saturate (now.toInt - s.timestamp.toInt) ≤
      saturate (now'.toInt - s.timestamp.toInt) := saturate_mono (by omega)
  exact saturate_mono (by omega)

/-- From the time of the snapshot on, the player is not before the position of the snapshot. -/
theorem le_rawPositionAt (running : s.isPaused = false) (le : s.timestamp ≤ now) :
    s.positionAsOf.toInt ≤ s.rawPositionAt now := by
  rw [rawPositionAt_of_running running]
  have later : s.timestamp.toInt ≤ now.toInt := Int64.le_iff_toInt_le.mp le
  have elapsed : (0 : Int) ≤ saturate (now.toInt - s.timestamp.toInt) := by
    rw [← saturate_of_fits (show Fits64 0 by decide)]
    exact saturate_mono (by omega)
  exact le_saturate_add (fits64_toInt _) elapsed

/-- Where no bound is reached, the position goes on with the time. -/
theorem rawPositionAt_of_fits (running : s.isPaused = false)
    (elapsed : Fits64 (now.toInt - s.timestamp.toInt))
    (fits : Fits64 (s.positionAsOf.toInt + (now.toInt - s.timestamp.toInt))) :
    s.rawPositionAt now = s.positionAsOf.toInt + (now.toInt - s.timestamp.toInt) := by
  rw [rawPositionAt_of_running running, saturate_of_fits elapsed, saturate_of_fits fits]

/-! ## The position that a cluster shows -/

/-- When the player was where a cluster says: at the time of the player, or at that of the cluster
if the player has none. -/
def positionTime (c : Cluster.State) (p : Cluster.PlayerState) : Int64 :=
  if p.timestamp = 0 then c.timestamp else p.timestamp

theorem ofCluster_stopped {c : Cluster.State} (stopped : c.playerState = none) (id : String) :
    (ofCluster c id).hasPlayerState = false := by
  simp [ofCluster, stopped]

theorem ofCluster_player {c : Cluster.State} {p : Cluster.PlayerState}
    (player : c.playerState = some p) (id : String) :
    (ofCluster c id).hasPlayerState = true ∧ (ofCluster c id).isPaused = p.isPaused ∧
      (ofCluster c id).positionAsOf = p.positionAsOfTimestamp ∧
      (ofCluster c id).timestamp = positionTime c p := by
  simp [ofCluster, player, positionTime]

/-- **The position goes on from where the cluster shows it**, whatever the numbers in the cluster
and whatever the time. It is a whole number of milliseconds, and neither it nor what it is computed
from exceeds 64 bits. Without a player it is zero. A player that is paused stays where it is, which
is nowhere before the beginning; one that is not paused never goes back, is not before its position
once the time of that has come, and is ahead of it by the time elapsed as long as no bound is
reached. -/
theorem position_goes_on (c : Cluster.State) (id : String) (now now' : Int64) :
    let s := ofCluster c id
    Fits64 (s.rawPositionAt now) ∧
    s.positionAt now = Span.ofMilliseconds (s.millisecondsAt now).toNat ∧
    0 ≤ s.millisecondsAt now ∧ s.millisecondsAt now ≤ 2 ^ 63 - 1 ∧
    (c.playerState = none → s.positionAt now = Span.zero) ∧
    ∀ p, c.playerState = some p →
      (p.isPaused = true → s.millisecondsAt now = max 0 p.positionAsOfTimestamp.toInt) ∧
      (p.isPaused = false →
        (now ≤ now' → s.millisecondsAt now ≤ s.millisecondsAt now') ∧
        (positionTime c p ≤ now → max 0 p.positionAsOfTimestamp.toInt ≤ s.millisecondsAt now) ∧
        (Fits64 (now.toInt - (positionTime c p).toInt) →
          Fits64 (p.positionAsOfTimestamp.toInt + (now.toInt - (positionTime c p).toInt)) →
          s.millisecondsAt now =
            max 0 (p.positionAsOfTimestamp.toInt + (now.toInt - (positionTime c p).toInt)))) := by
  intro s
  obtain ⟨whole, nonneg, bounded⟩ := s.positionAt_eq now
  refine ⟨s.fits64_rawPositionAt now, whole, nonneg, bounded, ?_, ?_⟩
  · intro stopped
    simp [positionAt, s, ofCluster_stopped stopped]
  · intro p player
    obtain ⟨there, paused, position, time⟩ : s.hasPlayerState = true ∧ s.isPaused = p.isPaused ∧
        s.positionAsOf = p.positionAsOfTimestamp ∧ s.timestamp = positionTime c p :=
      ofCluster_player player id
    rw [← paused, ← position, ← time, s.millisecondsAt_eq there, s.millisecondsAt_eq there]
    refine ⟨?_, fun running => ⟨?_, ?_, ?_⟩⟩
    · intro paused
      rw [rawPositionAt_of_paused paused]
    · intro le
      have forward := rawPositionAt_mono running le
      omega
    · intro le
      have ahead := le_rawPositionAt running le
      omega
    · intro elapsed fits
      rw [rawPositionAt_of_fits running elapsed fits]

/-- A player without a time of its own, up to the last moment that there is; a paused one at a
position far below zero; and none. -/
theorem position_up_to_the_last_moment :
    let player : Cluster.PlayerState := { positionAsOfTimestamp := 500 }
    let playing : Cluster.State := { timestamp := -1000, playerState := some player }
    let paused : Cluster.State :=
      { playerState := some { positionAsOfTimestamp := Int64.minValue, isPaused := true } }
    let last := Int64.maxValue
    positionTime playing player = -1000 ∧ (ofCluster playing "").millisecondsAt 2000 = 3500 ∧
      3500 ≤ (ofCluster playing "").millisecondsAt last ∧
      (ofCluster playing "").millisecondsAt last ≤ 2 ^ 63 - 1 ∧
      (ofCluster paused "").millisecondsAt last = 0 ∧
      (ofCluster {} "").positionAt last = Span.zero := by
  intro player playing paused last
  obtain ⟨-, -, -, -, -, running⟩ := position_goes_on playing "" 2000 last
  obtain ⟨forward, -, exact⟩ := (running player rfl).2 rfl
  obtain ⟨-, -, -, bounded, -, -⟩ := position_goes_on playing "" last last
  obtain ⟨-, -, -, -, -, stays⟩ := position_goes_on paused "" last last
  obtain ⟨-, -, -, -, none, -⟩ := position_goes_on {} "" last last
  have there : (ofCluster playing "").millisecondsAt 2000 = 3500 :=
    exact (by decide) (by decide)
  exact ⟨by decide, there, there ▸ forward (by decide), bounded, (stays _ rfl).1 rfl, none rfl⟩

end RemotePlayback.Playback.Snapshot
