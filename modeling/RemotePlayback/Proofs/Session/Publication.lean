import RemotePlayback.Proofs.Session.History

/-! Snapshots are published in the order of the attempts.

Two sides publish into one cell: the session itself, which publishes the answer to its announcement
and whatever is pushed, and the callers, whose reports are answered at any time, even after their
connection is gone. Still, the snapshots are numbered without a gap, each belongs to the attempt
that is current when it is published, the first one of an attempt is the answer to its announcement,
and what was observed on one connection is never published after something that was observed on a
later one. -/

namespace RemotePlayback.Session

open Playback Dealer

variable {config : Config} {now : Int64} {ms : List Moment} {s s' : Session} {k k' : Core}
  {i : Input} {effects : List Effect} {c : Cluster.State} {epoch : Nat}

/-- **What was published tells the history**: the epochs grow up to that of the current snapshot,
every snapshot was observed on the attempt of its epoch, and the first of each epoch is the answer
to an announcement. -/
structure Published (config : Config) (ms : List Moment) (k : Core) : Prop where
  sorted : (publications ms).Pairwise (·.epoch ≤ ·.epoch)
  bounded : ∀ n ∈ publications ms, n.epoch ≤ k.snapshot.epoch
  first : ∀ epoch n, firstPublication? ms epoch = some n →
    ∃ c, announcement? ms epoch = some c ∧ n = stamped config c n.rev epoch
  observed : ∀ n ∈ publications ms,
    ∃ c, Observed config ms n.epoch c ∧ n = stamped config c n.rev n.epoch

theorem Published.start (config : Config) (k : Core) : Published config [] k := by
  refine ⟨.nil, fun n mem => ?_, fun epoch n found => ?_, fun n mem => ?_⟩
  · cases mem
  · cases found
  · cases mem

/-- A cluster that is about to be published was observed on the current attempt. -/
theorem Publishes.observed {m : Moment} (source : Publishes k i c epoch)
    (told : k.config = config) (traced : Traced ms k) (on : m.before.epoch = k.epoch)
    (input : m.input = i) : Observed config (ms ++ [m]) epoch c := by
  have now : m ∈ ms ++ [m] := List.mem_append_right _ (List.mem_singleton.mpr rfl)
  cases source with
  | adopted phase =>
    have heard := traced.heard
    rw [Core.Heard, phase] at heard
    obtain ⟨m', mem, on', answer⟩ := exists_of_firstOn?_eq_some heard
    have answered : m'.input = .announced (.ok c) := by
      unfold Input.announcement? at answer
      split at answer
      · rw [‹m'.input = _›, Option.some.inj answer]
      · cases answer
    exact .announced (List.mem_append_left _ mem) on' answered
  | pushed _ pushed => exact .pushed now on input (told ▸ pushed)
  | answered pending =>
    obtain ⟨m', mem, on', body, issued⟩ := traced.issued _ pending
    exact .reported (List.mem_append_left _ mem) on' issued now input

/-- Only the answer to the announcement is published first with the epoch of its attempt. -/
theorem Publishes.first (source : Publishes k i c epoch) (counted : Counted config ms k)
    (placed : k.Placed) (traced : Traced ms k) (fresh : firstPublication? ms epoch = none) :
    announcement? ms epoch = some c := by
  -- had anything been seen on this attempt, something would have been published with its epoch
  have unseen : k.snapshot.epoch ≠ k.epoch := fun seen => by
    obtain ⟨n, found⟩ := counted.exists_firstPublication? placed seen
    rw [placed.publishes_epoch source, found] at fresh
    cases fresh
  cases source with
  | adopted phase =>
    have heard := traced.heard
    rwa [Core.Heard, phase] at heard
  | pushed phase =>
    have here := placed.phase
    rw [Core.InPhase, phase] at here
    exact absurd here.current unseen
  | answered _ linked seen => exact absurd (seen.trans (placed.link_epoch linked)) unseen

theorem Published.step (h : Published config ms s.core) (counted : Counted config ms s.core)
    (placed : s.core.Placed) (traced : Traced ms s.core)
    (change : Change s.core i s'.core effects) :
    Published config (ms ++ [⟨s, i, s', effects⟩]) s'.core := by
  have mono := placed.snapshot_mono change
  rcases change.publishes_or with ⟨none, -, -⟩ | ⟨c, epoch, source, rfl, snapshot, -⟩
  · have same : publications (ms ++ [⟨s, i, s', effects⟩]) = publications ms := by
      rw [publications_append, Moment.publications, none, List.append_nil]
    refine ⟨?_, fun n mem => ?_, fun epoch n found => ?_, fun n mem => ?_⟩
    · rw [same]
      exact h.sorted
    · rw [same] at mem
      exact Nat.le_trans (h.bounded n mem) mono
    · rw [firstPublication?, same] at found
      obtain ⟨c, answer, eq⟩ := h.first epoch n found
      exact ⟨c, firstOn?_append_of_some _ answer, eq⟩
    · rw [same] at mem
      obtain ⟨c, observed, eq⟩ := h.observed n mem
      exact ⟨c, observed.append _, eq⟩
  · have more : publications (ms ++ [⟨s, i, s', [.publish (s.core.next c epoch)]⟩]) =
        publications ms ++ [s.core.next c epoch] := publications_append ms _
    have next : s.core.next c epoch = stamped config c (s.core.next c epoch).rev epoch := by
      rw [← counted.config]
      rfl
    have bounded : ∀ n ∈ publications ms, n.epoch ≤ s'.core.snapshot.epoch := fun n mem =>
      Nat.le_trans (h.bounded n mem) mono
    refine ⟨?_, ?_, fun epoch' n found => ?_, ?_⟩
    · rw [more]
      refine List.pairwise_append.mpr ⟨h.sorted, List.pairwise_singleton _ _, ?_⟩
      exact fun n mem => List.forall_mem_singleton.mpr (snapshot ▸ bounded n mem)
    · rw [more]
      exact forall_mem_concat bounded (Nat.le_of_eq (congrArg Snapshot.epoch snapshot.symm))
    · -- the first of an epoch stays the first; if there was none, it is the new snapshot
      rw [firstPublication?, more, List.find?_append] at found
      rcases Option.or_eq_some_iff.mp found with old | ⟨none, new⟩
      · obtain ⟨c, answer, eq⟩ := h.first epoch' n old
        exact ⟨c, firstOn?_append_of_some _ answer, eq⟩
      · obtain rfl := List.mem_singleton.mp (List.mem_of_find?_eq_some new)
        have on : (s.core.next c epoch).epoch = epoch' := by simpa using List.find?_some new
        obtain rfl : epoch = epoch' := on
        exact ⟨c, firstOn?_append_of_some _ (source.first counted placed traced none), next⟩
    · rw [more]
      refine forall_mem_concat (fun n mem => ?_) ⟨c, ?_, next⟩
      · obtain ⟨c, observed, eq⟩ := h.observed n mem
        exact ⟨c, observed.append _, eq⟩
      · exact source.observed (m := ⟨s, i, s', _⟩) counted.config traced rfl rfl

theorem Run.published (run : Run config now ms s) : Published config ms s.core := by
  induction run with
  | start => exact Published.start config _
  | step run h ih => exact ih.step run.counted run.placed run.traced (step?_change h)

/-- Whatever is published at a moment is published with the number of the attempt under way. -/
theorem Run.publication_epoch {past rest : List Moment} {m : Moment} (run : Run config now ms s)
    (split : ms = past ++ m :: rest) {n : Snapshot} (mem : n ∈ m.publications) :
    n.epoch = attempts past := by
  obtain ⟨run, stepped⟩ := run.moment split
  rw [← run.counted.epoch]
  rcases (step?_change stepped).publishes_or with ⟨none, -, -⟩ | ⟨c, epoch, source, one, -, -⟩
  · rw [Moment.publications, none] at mem
    cases mem
  · rw [Moment.publications, one] at mem
    rw [List.mem_singleton.mp mem]
    exact run.placed.publishes_epoch source

/-- The current snapshot has the number of the last publication. -/
theorem Counted.snapshot_rev (h : Counted config ms k) :
    k.snapshot.rev = (publications ms).length := by
  rw [h.last, ← Option.getD_map Snapshot.rev, ← List.getLast?_map, h.revs]
  cases (publications ms).length with
  | zero => rfl
  | succ n => simp [List.range'_1_concat, Nat.add_comm]

/-- **Snapshots are published in the order of the attempts.** They are numbered without a gap, and
the current one is the last. Their epochs never decrease; the session's own count of its attempts is
right at every moment, and it is the epoch of what is published then. The first snapshot of an epoch
is the answer to the announcement of that attempt, and each later one was observed on the attempt of
its epoch, too. -/
theorem publications_follow_attempts (run : Run config now ms s) :
    s.epoch = attempts ms ∧ s.snapshot.rev = (publications ms).length ∧
    s.snapshot = (publications ms).getLast?.getD {} ∧
    (publications ms).map (·.rev) = List.range' 1 (publications ms).length ∧
    (publications ms).Pairwise (·.epoch ≤ ·.epoch) ∧
    (∀ past m rest, ms = past ++ m :: rest →
      m.before.epoch = attempts past ∧ ∀ n ∈ m.publications, n.epoch = attempts past) ∧
    (∀ epoch n, firstPublication? ms epoch = some n →
      ∃ c, announcement? ms epoch = some c ∧ n = stamped config c n.rev epoch) ∧
    ∀ n ∈ publications ms,
      ∃ c, Observed config ms n.epoch c ∧ n = stamped config c n.rev n.epoch := by
  have counted := run.counted
  have published := run.published
  refine ⟨counted.epoch, counted.snapshot_rev, counted.last, counted.revs, published.sorted, ?_,
    published.first, published.observed⟩
  intro past m rest split
  exact ⟨(run.moment split).1.counted.epoch, fun n mem => run.publication_epoch split mem⟩

/-- Two attempts; the first has two reports, one of which is answered in time. -/
def reconnection : List Input :=
  joining "one" { activeDeviceId := "phone" } ++
  [.report {}, .report {}, .reported 1 (.ok { activeDeviceId := "tv" })] ++
  losing ++ [.reported 2 (.ok { activeDeviceId := "radio" })] ++
  joining "two" { activeDeviceId := "speaker" }

theorem reconnection_publications : ∃ ms s, Run sampleConfig 0 ms s ∧
    (publications ms).map (·.epoch) = [1, 1, 2] ∧ s.snapshot.rev = 3 := by
  have epochs : (replay? sampleConfig 0 reconnection).map
      (fun run => (publications run.1).map (·.epoch)) = some [1, 1, 2] := by decide +kernel
  obtain ⟨⟨ms, s⟩, replayed, epochs⟩ := Option.map_eq_some_iff.mp epochs
  have run := Run.of_replay? replayed
  obtain ⟨-, rev, -⟩ := publications_follow_attempts run
  refine ⟨ms, s, run, epochs, ?_⟩
  rw [rev, ← List.length_map, epochs]
  rfl

end RemotePlayback.Session
