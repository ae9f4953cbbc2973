import RemotePlayback.Proofs.Session.Publication

/-! When the answer to a report replaces the current snapshot.

The answer to a report is published unless it is older than what is known of its connection. Which
of two clusters is older is decided by the times of their snapshots, and the snapshot of a cluster
without a player has no time, even when the cluster does: it counts as made at time zero. Two
clusters with a player are compared by their own times; else an older answer can be published. -/

namespace RemotePlayback.Session

open Playback Dealer

variable {config : Config} {now : Int64} {ms : List Moment} {s s' : Session} {k k' : Core}
  {i : Input} {effects : List Effect} {c : Cluster.State} {epoch : Nat}

/-! ## Times of clusters -/

/-- **The time of a cluster**: that of its player if there is one with a time, else its own. -/
def clusterTime (c : Cluster.State) : Int64 :=
  match c.playerState with
  | some p => if p.timestamp ≠ 0 then p.timestamp else c.timestamp
  | none => c.timestamp

/-- The time that the snapshot of a cluster has. -/
def snapshotTime (c : Cluster.State) : Int64 :=
  if c.playerState.isSome then clusterTime c else 0

theorem ofCluster_timestamp (c : Cluster.State) (deviceId : String) :
    (Snapshot.ofCluster c deviceId).timestamp = snapshotTime c := by
  unfold Snapshot.ofCluster snapshotTime clusterTime
  cases c.playerState with
  | none => rfl
  | some p =>
    by_cases zero : p.timestamp = 0
    · simp [zero]
    · simp [zero]

/-- **Which older clusters are taken for newer ones**: `old` is the cluster that is known, and `new`
the one that is older than it. -/
def Mistaken (old new : Cluster.State) : Prop :=
  (old.playerState = none ∧ (new.playerState = none ∨ 0 ≤ clusterTime new)) ∨
    (old.playerState ≠ none ∧ new.playerState = none ∧ clusterTime old ≤ 0)

/-- The times of snapshots mislead about an older cluster exactly where a player is missing. -/
theorem snapshotTime_le_iff_mistaken {old new : Cluster.State}
    (older : clusterTime new < clusterTime old) :
    snapshotTime old ≤ snapshotTime new ↔ Mistaken old new := by
  unfold snapshotTime Mistaken
  cases old.playerState with
  | none =>
    cases new.playerState with
    | none => simp
    | some p => simp
  | some p =>
    cases new.playerState with
    | none => simp
    | some p' =>
      -- with two players the snapshots have the times of their clusters
      have not_le : ¬clusterTime old ≤ clusterTime new := by
        rw [Int64.le_iff_toInt_le]
        rw [Int64.lt_iff_toInt_lt] at older
        omega
      simp [not_le]

/-! ## The cluster behind the current snapshot -/

/-- The cluster that comes with an input. -/
def Moment.cluster? (m : Moment) : Option Cluster.State :=
  match m.input, m.before.stage.phase with
  | .proceed, .adopting cluster => some cluster
  | .received (.text text), _ => pushed? m.before.config text
  | .reported _ (.ok cluster), _ => some cluster
  | _, _ => none

/-- The clusters that were published. -/
def publishedClusters (ms : List Moment) : List Cluster.State :=
  ms.filterMap fun m => if m.publications = [] then none else m.cluster?

/-- **The cluster behind the current snapshot.** -/
def behind? (ms : List Moment) : Option Cluster.State := (publishedClusters ms).getLast?

theorem behind?_append_of_none {m : Moment} (none : m.publications = []) :
    behind? (ms ++ [m]) = behind? ms := by
  rw [behind?, publishedClusters, List.filterMap_append]
  simp [none, behind?, publishedClusters]

theorem behind?_append_of_some {m : Moment} {n : Snapshot} (some : m.publications = [n])
    (brought : m.cluster? = Option.some c) : behind? (ms ++ [m]) = Option.some c := by
  rw [behind?, publishedClusters, List.filterMap_append]
  simp [some, brought]

/-- What is published is the cluster that comes with the input. -/
theorem Publishes.cluster? {m : Moment} (source : Publishes m.before.core i c epoch)
    (input : m.input = i) : m.cluster? = some c := by
  unfold Moment.cluster?
  rw [input]
  cases source with
  | adopted phase =>
    have phase : m.before.stage.phase = .adopting c := phase
    rw [phase]
  | pushed _ pushed => exact pushed
  | answered => rfl

/-- Once something was published, the snapshot is that of the cluster behind it. -/
def Reduced (config : Config) (ms : List Moment) (k : Core) : Prop :=
  0 < k.snapshot.epoch →
    ∃ c, behind? ms = some c ∧ k.snapshot = stamped config c k.snapshot.rev k.snapshot.epoch

theorem Reduced.step (h : Reduced config ms s.core) (told : s.core.config = config)
    (change : Change s.core i s'.core effects) :
    Reduced config (ms ++ [⟨s, i, s', effects⟩]) s'.core := by
  intro seen
  rcases change.publishes_or with ⟨none, same, -⟩ | ⟨c, epoch, source, rfl, next, -⟩
  · rw [same] at seen ⊢
    obtain ⟨c, behind, eq⟩ := h seen
    exact ⟨c, (behind?_append_of_none (m := ⟨s, i, s', effects⟩) none).trans behind, eq⟩
  · have brought := source.cluster? (m := ⟨s, i, s', [.publish (s.core.next c epoch)]⟩) rfl
    refine ⟨c, behind?_append_of_some rfl brought, ?_⟩
    rw [next, ← told]
    rfl

theorem Run.reduced (run : Run config now ms s) : Reduced config ms s.core := by
  induction run with
  | start =>
    intro seen
    rw [Session.start, attempt_core] at seen
    exact (Nat.lt_irrefl 0 seen).elim
  | step run h ih => exact ih.step run.counted.config (step?_change h)

/-! ## Answers to reports -/

variable {call : Call}

/-- The answer to a report that is pending is taken up, and the report forgotten. -/
theorem Run.reported (run : Run config now ms s) (pending : call ∈ s.calls)
    (c : Cluster.State) :
    s.step? (.reported call.number (.ok c)) =
      some ({ s with calls := s.calls.filter (·.number != call.number) }.adopt call.link c) := by
  have found : s.calls.find? (·.number == call.number) = some call :=
    run.placed.find?_call pending
  show s.reported? call.number (.ok c) = _
  rw [reported?, found, Option.map_some]

theorem adopt_of_fresh {link : Link} {calls : List Call} (linked : s.link = some link)
    (seen : s.snapshot.epoch = link.epoch) (fresh : s.snapshot.timestamp ≤ snapshotTime c) :
    { s with calls }.adopt link c = { s with calls }.publish c link.epoch := by
  rw [← ofCluster_timestamp c s.config.deviceId] at fresh
  exact if_pos ⟨linked, seen, fresh⟩

theorem adopt_of_old {link : Link} {calls : List Call}
    (old : ¬s.snapshot.timestamp ≤ snapshotTime c) :
    { s with calls }.adopt link c = ({ s with calls }, []) := by
  rw [← ofCluster_timestamp c s.config.deviceId] at old
  exact if_neg fun current => old current.2.2

/-- The time of the current snapshot is that of the cluster behind it. -/
theorem Run.behind (run : Run config now ms s) (pending : call ∈ s.calls)
    (linked : s.link = some call.link) :
    ∃ known, behind? ms = some known ∧ s.snapshot.timestamp = snapshotTime known := by
  have seen : s.snapshot.epoch = call.link.epoch := run.placed.seen_of_pending pending linked
  have begun : 0 < s.snapshot.epoch := by
    rw [seen, show call.link.epoch = s.core.epoch from run.placed.link_epoch linked]
    exact run.placed.begun
  obtain ⟨known, behind, reduced⟩ := run.reduced begun
  refine ⟨known, behind, ?_⟩
  rw [← ofCluster_timestamp known config.deviceId]
  have time := congrArg Snapshot.timestamp reduced
  exact time

/-- **An older answer to a report is published exactly where a player is missing.** While the link
of a pending call is current, its answer can come; the cluster behind the current snapshot is known
then, and an answer that is older leaves the snapshot alone unless it is mistaken for a newer one.
-/
theorem older_answer_published_iff (run : Run config now ms s) (pending : call ∈ s.calls)
    (linked : s.link = some call.link) (c : Cluster.State) :
    ∃ known s' effects, behind? ms = some known ∧
      s.step? (.reported call.number (.ok c)) = some (s', effects) ∧
      (clusterTime c < clusterTime known →
        (Mistaken known c → effects = [.publish (stamped config c (s.published + 1) s.epoch)] ∧
          s'.snapshot = stamped config c (s.published + 1) s.epoch) ∧
        (¬Mistaken known c → effects = [] ∧ s'.snapshot = s.snapshot)) := by
  have seen : s.snapshot.epoch = call.link.epoch := run.placed.seen_of_pending pending linked
  have current : call.link.epoch = s.epoch := run.placed.link_epoch linked
  have told : s.config = config := run.counted.config
  obtain ⟨known, behind, time⟩ := run.behind pending linked
  have answered := run.reported pending c
  by_cases fresh : s.snapshot.timestamp ≤ snapshotTime c
  · rw [adopt_of_fresh linked seen fresh, current] at answered
    subst told
    refine ⟨known, _, _, behind, answered, fun older => ⟨fun _ => ⟨rfl, rfl⟩, fun told => ?_⟩⟩
    exact absurd ((snapshotTime_le_iff_mistaken older).mp (time ▸ fresh)) told
  · rw [adopt_of_old fresh] at answered
    refine ⟨known, _, _, behind, answered, fun older => ⟨fun mistaken => ?_, fun _ => ⟨rfl, rfl⟩⟩⟩
    exact absurd (time ▸ (snapshotTime_le_iff_mistaken older).mpr mistaken) fresh

/-- A cluster with a player, and one without. -/
def playing (device : String) (time : Int64) : Cluster.State where
  activeDeviceId := device
  playerState := some { timestamp := time }

def idling (device : String) (time : Int64) : Cluster.State where
  activeDeviceId := device
  timestamp := time

/-- The frame that pushes the idling cluster of a speaker at time 9000. -/
def pushText : String :=
  (Json.ofMembers [("type", .string "message"), ("uri", .string Topic.clusterStart),
    ("payloads", .array [.string "CgwIqEYSB3NwZWFrZXI="])]).text

/-- Two clusters with a player: the answer to a report is older than the announcement's, and leaves
the snapshot alone. -/
theorem older_answer_with_player : ∃ ms s s', Run sampleConfig 0 ms s ∧
    behind? ms = some (playing "speaker" 9000) ∧
    s.step? (.reported 1 (.ok (playing "phone" 1000))) = some (s', []) ∧
    s'.snapshot = s.snapshot := by
  have told : (replay? sampleConfig 0 (joining "one" (playing "speaker" 9000) ++ [.report {}])).map
      (fun run => (run.2.calls, run.2.link, behind? run.1)) =
      some ([⟨1, "one", 1⟩], some ⟨"one", 1⟩, some (playing "speaker" 9000)) := by decide +kernel
  obtain ⟨⟨ms, s⟩, replayed, told⟩ := Option.map_eq_some_iff.mp told
  simp only [Prod.mk.injEq] at told
  obtain ⟨calls, link, behind⟩ := told
  have run := Run.of_replay? replayed
  have pending : (⟨1, "one", 1⟩ : Call) ∈ s.calls := by rw [calls]; exact List.mem_singleton.mpr rfl
  obtain ⟨known, s', effects, behind', answered, kept⟩ :=
    older_answer_published_iff run pending link (playing "phone" 1000)
  obtain rfl := Option.some.inj (behind'.symm.trans behind)
  have older : clusterTime (playing "phone" 1000) < clusterTime (playing "speaker" 9000) := by
    decide
  have told : ¬Mistaken (playing "speaker" 9000) (playing "phone" 1000) := by
    simp [Mistaken, playing]
  obtain ⟨rfl, same⟩ := (kept older).2 told
  exact ⟨ms, s, s', run, behind, answered, same⟩

/-- A cluster without a player is pushed while a report is under way; the answer is older, and
replaces it. -/
theorem older_answer_replaces_push : ∃ ms s, Run sampleConfig 0 ms s ∧
    s.calls = [⟨1, "conn-1", 1⟩] ∧ s.link = some ⟨"conn-1", 1⟩ ∧
    behind? ms = some (idling "speaker" 9000) ∧
    clusterTime (playing "phone" 1000) < clusterTime (idling "speaker" 9000) ∧
    (s.step? (.reported 1 (.ok (playing "phone" 1000)))).map (·.1.snapshot) =
      some (stamped sampleConfig (playing "phone" 1000) 3 1) := by
  have told : (replay? sampleConfig 0
        (joining "conn-1" {} ++ [.report {}, .received (.text pushText)])).map (fun run =>
          (run.2.calls, run.2.link, behind? run.1,
            (run.2.step? (.reported 1 (.ok (playing "phone" 1000)))).map (·.1.snapshot))) =
      some ([⟨1, "conn-1", 1⟩], some ⟨"conn-1", 1⟩, some (idling "speaker" 9000),
        some (stamped sampleConfig (playing "phone" 1000) 3 1)) := by decide +kernel
  obtain ⟨⟨ms, s⟩, replayed, told⟩ := Option.map_eq_some_iff.mp told
  simp only [Prod.mk.injEq] at told
  obtain ⟨calls, link, behind, replaced⟩ := told
  exact ⟨ms, s, Run.of_replay? replayed, calls, link, behind, by decide, replaced⟩

end RemotePlayback.Session
