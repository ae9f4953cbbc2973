import Mathlib.Data.List.Chain
import RemotePlayback.Proofs.Session.Freshness
import RemotePlayback.Proofs.Session.Junk
import RemotePlayback.Proofs.Session.Parting

/-! The times of the snapshots of one connection.

A push is published as it is received, whatever is known by then; the answer to a report is
published only if it is not older than what is known. So time can go back at one place alone: where
a push that was under way replaces a response that is later than it. If the dealer keeps its pushes
in order, nothing that was pushed is ever followed by something older, and where the responses are
no later than the pushes behind them the times never decrease at all. -/

namespace RemotePlayback.Session

open Playback Dealer

variable {config : Config} {now : Int64} {ms : List Moment} {m : Moment} {s s' : Session}
  {i : Input} {effects : List Effect} {c : Cluster.State} {epoch : Nat}

/-! ## What is seen of a connection -/

/-- How a snapshot comes to be published: by a push, or in response to a report of the device. -/
inductive Origin where
  | push
  | response
  deriving DecidableEq

/-- A published snapshot, and how it came to be published. -/
structure Sighting where
  origin : Origin
  snapshot : Snapshot
  deriving DecidableEq

/-- When the cluster was made that is seen. -/
def Sighting.time (x : Sighting) : Int64 := x.snapshot.timestamp

/-- Pushes are read, and everything else is an answer. -/
def Input.origin : Input → Origin
  | .received _ => .push
  | _ => .response

/-- What is published at a moment. -/
def Moment.sightings (m : Moment) : List Sighting := m.publications.map (⟨m.input.origin, ·⟩)

/-- **What is seen of a connection**: the snapshots that are published with its epoch. -/
def sightings (ms : List Moment) (epoch : Nat) : List Sighting :=
  (ms.flatMap Moment.sightings).filter (·.snapshot.epoch == epoch)

/-- **The clusters that the dealer pushes** on the established connection of an attempt. -/
def pushes (config : Config) (ms : List Moment) (epoch : Nat) : List Cluster.State :=
  (framesRead ms epoch).filterMap (pushed? config)

/-- A cluster with a player that has a time. -/
def Timed (c : Cluster.State) : Prop := ∃ p, c.playerState = some p ∧ p.timestamp ≠ 0

theorem snapshotTime_of_timed (timed : Timed c) : snapshotTime c = clusterTime c := by
  obtain ⟨p, player, -⟩ := timed
  rw [snapshotTime, player]
  rfl

/-- **The pushes of an attempt are in order**: each has a player with a time, and none is older than
one before it. -/
structure InOrder (config : Config) (ms : List Moment) (epoch : Nat) : Prop where
  timed : ∀ c ∈ pushes config ms epoch, Timed c
  sorted : (pushes config ms epoch).Pairwise (clusterTime · ≤ clusterTime ·)

/-! ### One more moment -/

theorem pushes_append (ms : List Moment) (m : Moment) :
    pushes config (ms ++ [m]) epoch = pushes config ms epoch ++ pushes config [m] epoch := by
  rw [pushes, framesRead_append, List.filterMap_append]
  rfl

theorem InOrder.of_append (h : InOrder config (ms ++ [m]) epoch) : InOrder config ms epoch := by
  obtain ⟨timed, sorted⟩ := h
  rw [pushes_append] at timed sorted
  exact ⟨fun c mem => timed c (List.mem_append_left _ mem), (List.pairwise_append.mp sorted).1⟩

theorem sightings_append (ms : List Moment) (m : Moment) :
    sightings (ms ++ [m]) epoch =
      sightings ms epoch ++ m.sightings.filter (·.snapshot.epoch == epoch) := by
  rw [sightings, List.flatMap_append, List.filter_append, List.flatMap_singleton]
  rfl

theorem sightings_append_of_none (none : m.publications = []) :
    sightings (ms ++ [m]) epoch = sightings ms epoch := by
  rw [sightings_append, Moment.sightings, none]
  exact List.append_nil _

theorem sightings_append_of_some {n : Snapshot} (some : m.publications = [n])
    (on : n.epoch = epoch) :
    sightings (ms ++ [m]) epoch = sightings ms epoch ++ [⟨m.input.origin, n⟩] := by
  rw [sightings_append, Moment.sightings, some, List.map_singleton,
    List.filter_cons_of_pos (by simpa using on), List.filter_nil]

theorem sightings_append_of_other {n : Snapshot} (some : m.publications = [n])
    (off : n.epoch ≠ epoch) : sightings (ms ++ [m]) epoch = sightings ms epoch := by
  rw [sightings_append, Moment.sightings, some, List.map_singleton,
    List.filter_cons_of_neg (by simpa using off), List.filter_nil, List.append_nil]

/-- Nothing else is seen of a connection than what is published with its epoch. -/
theorem map_snapshot_sightings (ms : List Moment) (epoch : Nat) :
    (sightings ms epoch).map (·.snapshot) = (publications ms).filter (·.epoch == epoch) := by
  have all : (ms.flatMap Moment.sightings).map (·.snapshot) = publications ms := by
    rw [List.map_flatMap, publications]
    congr 1
    funext m
    rw [Moment.sightings, List.map_map]
    exact List.map_id _
  rw [sightings, ← all, List.filter_map]
  rfl

/-- What is seen was published. -/
theorem mem_publications_of_sighting {x : Sighting} (seen : x ∈ sightings ms epoch) :
    x.snapshot ∈ publications ms ∧ x.snapshot.epoch = epoch := by
  have mem : x.snapshot ∈ (publications ms).filter (·.epoch == epoch) := by
    rw [← map_snapshot_sightings]
    exact List.mem_map_of_mem seen
  obtain ⟨published, on⟩ := List.mem_filter.mp mem
  exact ⟨published, by simpa using on⟩

/-- A push that is published was read on the connection. -/
theorem pushes_singleton {text : String} (stage : s.stage = .reading) (told : s.config = config)
    (pushed : pushed? s.config text = some c) :
    pushes config [⟨s, .received (.text text), s', effects⟩] s.epoch = [c] := by
  have read : s.read? (.received (.text text)) = some text := read?_eq_some_iff.mpr ⟨stage, rfl⟩
  rw [pushes, framesRead_singleton, if_pos rfl, read, ← told]
  exact List.filterMap_cons_some pushed

/-! ## Times along a run -/

/-- **How the times of a connection go on**: they decrease only from a response to a push, and
nothing that is pushed is followed by something older. -/
structure Advancing (seen : List Sighting) : Prop where
  steps : seen.IsChain fun x y => y.time < x.time → x.origin = .response ∧ y.origin = .push
  pushed : seen.Pairwise fun x y => x.origin = .push → x.time ≤ y.time

theorem advancing_empty : Advancing [] := ⟨.nil, .nil⟩

theorem advancing_singleton (y : Sighting) : Advancing [y] :=
  ⟨.singleton y, List.pairwise_singleton _ _⟩

/-- One more snapshot is seen. -/
theorem Advancing.concat {seen : List Sighting} {y : Sighting} (h : Advancing seen)
    (behind : ∀ x ∈ seen, x.origin = .push → x.time ≤ y.time)
    (next : ∀ x ∈ seen.getLast?, y.time < x.time → x.origin = .response ∧ y.origin = .push) :
    Advancing (seen ++ [y]) := by
  constructor
  · refine h.steps.append (.singleton y) fun x last z first => ?_
    obtain rfl : y = z := Option.some.inj first
    exact next x last
  · refine List.pairwise_append.mpr ⟨h.pushed, List.pairwise_singleton _ _, fun x mem => ?_⟩
    exact List.forall_mem_singleton.mpr (behind x mem)

/-- What was pushed is no later than what was seen last. -/
theorem Advancing.le_last {seen : List Sighting} (h : Advancing seen) {x last : Sighting}
    (mem : x ∈ seen) (push : x.origin = .push) (latest : seen.getLast? = some last) :
    x.time ≤ last.time := by
  obtain ⟨front, rfl⟩ := List.getLast?_eq_some_iff.mp latest
  rcases List.mem_append.mp mem with earlier | here
  · exact (List.pairwise_append.mp h.pushed).2.2 x earlier last (List.mem_singleton.mpr rfl) push
  · rw [List.mem_singleton.mp here]
    exact Int64.le_refl _

/-- **What is known of the snapshots of a connection** at any time of a run. -/
structure Dated (config : Config) (ms : List Moment) (k : Core) (epoch : Nat) : Prop where
  advancing : Advancing (sightings ms epoch)
  /-- What came by a push has the time of one. -/
  origin : ∀ x ∈ sightings ms epoch, x.origin = .push →
    ∃ c ∈ pushes config ms epoch, x.time = clusterTime c
  /-- The current snapshot is what was seen last. -/
  current : k.snapshot.epoch = epoch →
    ∀ x ∈ (sightings ms epoch).getLast?, x.snapshot = k.snapshot

/-- Nothing was seen of a connection before the answer to its announcement is published. -/
theorem Run.unseen (run : Run config now ms s) (earlier : s.snapshot.epoch < epoch) :
    sightings ms epoch = [] := by
  rw [List.eq_nil_iff_forall_not_mem]
  intro x seen
  obtain ⟨published, on⟩ := mem_publications_of_sighting seen
  have bounded : x.snapshot.epoch ≤ s.snapshot.epoch := run.published.bounded _ published
  omega

/-- A snapshot that is about to be published fits to what was seen before. -/
theorem Publishes.fits (source : Publishes s.core i c epoch) (on : epoch = s.epoch)
    (run : Run config now ms s) (step : s.step? i = some (s', effects))
    (dated : Dated config ms s.core epoch)
    (ordered : InOrder config (ms ++ [⟨s, i, s', effects⟩]) epoch) {y : Sighting}
    (origin : y.origin = i.origin) (time : y.time = snapshotTime c) :
    Advancing (sightings ms epoch ++ [y]) ∧ (y.origin = .push →
      ∃ c ∈ pushes config (ms ++ [⟨s, i, s', effects⟩]) epoch, y.time = clusterTime c) := by
  cases source with
  | adopted phase =>
    -- this is the first snapshot of the connection
    have here := run.placed.phase
    rw [Core.InPhase, phase] at here
    rw [run.unseen here.2]
    refine ⟨advancing_singleton y, fun push => ?_⟩
    rw [origin] at push
    cases push
  | @pushed text _ phase pushed =>
    have stage : s.stage = .reading := by
      refine (stage_of_received step).resolve_left fun greeting => ?_
      have live : s.stage.phase = .live := phase
      rw [greeting] at live
      cases live
    obtain ⟨timed, sorted⟩ := ordered
    have more : pushes config (ms ++ [⟨s, .received (.text text), s', effects⟩]) s.core.epoch =
        pushes config ms s.core.epoch ++ [c] := by
      rw [pushes_append]
      exact congrArg _ (pushes_singleton stage run.counted.config pushed)
    rw [more] at timed sorted ⊢
    have mem : c ∈ pushes config ms s.core.epoch ++ [c] := by simp
    rw [snapshotTime_of_timed (timed c mem)] at time
    have behind : ∀ x ∈ sightings ms s.core.epoch, x.origin = .push → x.time ≤ y.time := by
      intro x seen push
      obtain ⟨c', earlier, eq⟩ := dated.origin x seen push
      rw [eq, time]
      exact (List.pairwise_append.mp sorted).2.2 c' earlier c (List.mem_singleton.mpr rfl)
    refine ⟨dated.advancing.concat behind fun x last older => ?_, fun _ => ⟨c, mem, time⟩⟩
    refine ⟨?_, origin⟩
    cases response : x.origin with
    | response => rfl
    | push =>
      have le := behind x (List.mem_of_mem_getLast? last) response
      exact absurd older (Int64.not_lt.mpr le)
  | @answered call _ _ _ seen fresh =>
    -- the answer is compared with the current snapshot, which is what was seen last
    rw [ofCluster_timestamp, ← time] at fresh
    have upto : ∀ x ∈ (sightings ms call.link.epoch).getLast?, x.time ≤ y.time := by
      intro x last
      rw [Sighting.time, dated.current seen x last]
      exact fresh
    refine ⟨dated.advancing.concat (fun x mem push => ?_) fun x last older => ?_, ?_⟩
    · have last := List.getLast?_eq_some_getLast (List.ne_nil_of_mem mem)
      exact Int64.le_trans (dated.advancing.le_last mem push last) (upto _ last)
    · exact absurd older (Int64.not_lt.mpr (upto x last))
    · intro push
      rw [origin] at push
      cases push

theorem Dated.step (dated : Dated config ms s.core epoch) (run : Run config now ms s)
    (step : s.step? i = some (s', effects))
    (ordered : InOrder config (ms ++ [⟨s, i, s', effects⟩]) epoch) :
    Dated config (ms ++ [⟨s, i, s', effects⟩]) s'.core epoch := by
  have later {c : Cluster.State} (mem : c ∈ pushes config ms epoch) :
      c ∈ pushes config (ms ++ [⟨s, i, s', effects⟩]) epoch := by
    rw [pushes_append]
    exact List.mem_append_left _ mem
  have known : ∀ x ∈ sightings ms epoch, x.origin = .push →
      ∃ c ∈ pushes config (ms ++ [⟨s, i, s', effects⟩]) epoch, x.time = clusterTime c := by
    intro x seen push
    obtain ⟨c, mem, time⟩ := dated.origin x seen push
    exact ⟨c, later mem, time⟩
  rcases (step?_change step).publishes_or with ⟨none, same, -⟩ | ⟨c, number, source, rfl, next, -⟩
  · obtain ⟨advancing, -, current⟩ := dated
    rw [← same] at current
    constructor <;> rw [sightings_append_of_none (m := ⟨s, i, s', effects⟩) none]
    · exact advancing
    · exact known
    · exact current
  · have own : number = s.epoch := run.placed.publishes_epoch source
    by_cases on : number = epoch
    · subst on
      have time : (s.core.next c number).timestamp = snapshotTime c := ofCluster_timestamp c _
      obtain ⟨advancing, push⟩ := source.fits own run step dated ordered
        (y := ⟨i.origin, s.core.next c number⟩) rfl time
      have one : (s.core.next c number).epoch = number := rfl
      constructor <;> rw [sightings_append_of_some (n := s.core.next c number) rfl one]
      · exact advancing
      · exact forall_mem_concat known push
      · intro _ x last
        rw [List.getLast?_concat] at last
        rw [next, ← Option.some.inj last]
    · obtain ⟨advancing, -, -⟩ := dated
      constructor <;> rw [sightings_append_of_other (n := s.core.next c number) rfl on]
      · exact advancing
      · exact known
      · intro here
        rw [next] at here
        exact absurd here on

theorem Run.dated (run : Run config now ms s) (ordered : InOrder config ms epoch) :
    Dated config ms s.core epoch := by
  induction run with
  | start =>
    refine ⟨advancing_empty, fun x mem => ?_, fun _ x mem => ?_⟩
    · cases mem
    · cases mem
  | step run h ih => exact (ih ordered.of_append).step run h ordered

/-- Where no push is older than a response before it, the times never decrease. -/
theorem Advancing.sorted {seen : List Sighting} (h : Advancing seen)
    (prompt : seen.Pairwise fun x y =>
      x.origin = .response → y.origin = .push → x.time ≤ y.time) :
    seen.Pairwise (·.time ≤ ·.time) := by
  have steps : seen.IsChain fun x y => x.time ≤ y.time := by
    refine List.isChain_iff_getElem.mpr fun n bound => ?_
    by_cases older : (seen[n + 1]).time < (seen[n]).time
    · obtain ⟨response, push⟩ := h.steps.getElem n bound older
      have prompt := List.pairwise_iff_getElem.mp prompt
      exact prompt n (n + 1) (Nat.lt_of_succ_lt bound) bound n.lt_succ_self response push
    · exact Int64.not_lt.mp older
  have : @Trans Sighting Sighting Sighting (·.time ≤ ·.time) (·.time ≤ ·.time) (·.time ≤ ·.time) :=
    ⟨Int64.le_trans⟩
  exact steps.pairwise

/-- **Time goes back only where a push replaces a later response.** On a connection whose pushes are
in order, the snapshots that are published are seen with times that decrease from one to the next
only if the one was a response, to the announcement or to a report, and the next is a push. What was
pushed is never followed by anything older. If no push is older than a response before it, the times
never decrease. While the connection is current, what was seen last is the current snapshot. -/
theorem time_goes_back_from_response_to_push (run : Run config now ms s)
    (ordered : InOrder config ms epoch) :
    (sightings ms epoch).map (·.snapshot) = (publications ms).filter (·.epoch == epoch) ∧
    ((sightings ms epoch).IsChain fun x y =>
      y.time < x.time → x.origin = .response ∧ y.origin = .push) ∧
    ((sightings ms epoch).Pairwise fun x y => x.origin = .push → x.time ≤ y.time) ∧
    (((sightings ms epoch).Pairwise fun x y =>
        x.origin = .response → y.origin = .push → x.time ≤ y.time) →
      (sightings ms epoch).Pairwise (·.time ≤ ·.time)) ∧
    (s.snapshot.epoch = epoch →
      ∀ x ∈ (sightings ms epoch).getLast?, x.snapshot = s.snapshot) := by
  obtain ⟨advancing, -, current⟩ := run.dated ordered
  exact ⟨map_snapshot_sightings ms epoch, advancing.steps, advancing.pushed, advancing.sorted,
    current⟩

/-- The frame that pushes a cluster. -/
def clusterText (c : Cluster.State) : String :=
  (Json.ofMembers [("type", .string "message"), ("uri", .string Topic.clusterStart), ("payloads",
    .array [.string (String.ofList
      (Base64.encode (Wire.encode ({ cluster := some c } : Cluster.Update))))])]).text

/-- A connection with two pushes; between them a report is answered. -/
def crossing (answer : Cluster.State) : List Input :=
  joining "one" (playing "phone" 500) ++ [.received (.text (clusterText (playing "phone" 1000))),
    .report {}, .reported 1 (.ok answer), .received (.text (clusterText (playing "phone" 2000)))]

/-- The pushes of the connection, and the times of what is seen of it. -/
def crossed (run : List Moment × Session) : List Cluster.State × List (Origin × Int64) :=
  (pushes sampleConfig run.1 1, (sightings run.1 1).map fun x => (x.origin, x.time))

theorem crossing_in_order {ms : List Moment}
    (pushed : pushes sampleConfig ms 1 = [playing "phone" 1000, playing "phone" 2000]) :
    InOrder sampleConfig ms 1 := by
  constructor <;> rw [pushed]
  · intro c mem
    simp only [List.mem_cons, List.not_mem_nil, or_false] at mem
    rcases mem with rfl | rfl <;> exact ⟨_, rfl, by decide⟩
  · decide

/-- An answer that is no later than the push behind it: the times never decrease. -/
theorem prompt_answer_keeps_order : ∃ ms s, Run sampleConfig 0 ms s ∧
    InOrder sampleConfig ms 1 ∧ (sightings ms 1).map (·.time) = [500, 1000, 1500, 2000] ∧
    (sightings ms 1).Pairwise (·.time ≤ ·.time) := by
  have told : (replay? sampleConfig 0 (crossing (playing "local" 1500))).map crossed =
      some ([playing "phone" 1000, playing "phone" 2000],
        [(.response, 500), (.push, 1000), (.response, 1500), (.push, 2000)]) := by decide +kernel
  obtain ⟨⟨ms, s⟩, replayed, told⟩ := Option.map_eq_some_iff.mp told
  obtain ⟨pushed, seen⟩ := Prod.mk.inj told
  have run := Run.of_replay? replayed
  have ordered := crossing_in_order pushed
  obtain ⟨-, -, -, sorted, -⟩ := time_goes_back_from_response_to_push run ordered
  have times := congrArg (List.map Prod.snd) seen
  have prompt : ((sightings ms 1).map fun x => (x.origin, x.time)).Pairwise fun x y =>
      x.1 = .response → y.1 = .push → x.2 ≤ y.2 := by
    rw [seen]
    decide
  rw [List.map_map] at times
  exact ⟨ms, s, run, ordered, times, sorted (List.pairwise_map.mp prompt)⟩

/-- **A push that is late**: it is older than the answer to a report that was published while it was
under way, and replaces it, although the pushes are in order and all clusters have a player. -/
theorem late_push_replaces_answer : ∃ ms s, Run sampleConfig 0 ms s ∧
    InOrder sampleConfig ms 1 ∧ (∀ c ∈ publishedClusters ms, Timed c) ∧
    (sightings ms 1).map (·.time) = [500, 1000, 9000, 2000] ∧
    s.snapshot.epoch = 1 ∧ s.snapshot.timestamp = 2000 ∧
    ¬(sightings ms 1).Pairwise (·.time ≤ ·.time) := by
  have told : (replay? sampleConfig 0 (crossing (playing "local" 9000))).map (fun run =>
      (pushes sampleConfig run.1 1, (sightings run.1 1).map (·.time), publishedClusters run.1,
        run.2.snapshot.epoch, run.2.snapshot.timestamp)) =
      some ([playing "phone" 1000, playing "phone" 2000], [500, 1000, 9000, 2000],
        [playing "phone" 500, playing "phone" 1000, playing "local" 9000, playing "phone" 2000],
        1, 2000) := by decide +kernel
  obtain ⟨⟨ms, s⟩, replayed, told⟩ := Option.map_eq_some_iff.mp told
  simp only [Prod.mk.injEq] at told
  obtain ⟨pushed, times, clusters, epoch, time⟩ := told
  refine ⟨ms, s, Run.of_replay? replayed, crossing_in_order pushed, ?_, times, epoch, time, ?_⟩
  · rw [clusters]
    intro c mem
    simp only [List.mem_cons, List.not_mem_nil, or_false] at mem
    rcases mem with rfl | rfl | rfl | rfl <;> exact ⟨_, rfl, by decide⟩
  · intro sorted
    have sorted := List.pairwise_map.mpr sorted
    rw [times] at sorted
    revert sorted
    decide

end RemotePlayback.Session
