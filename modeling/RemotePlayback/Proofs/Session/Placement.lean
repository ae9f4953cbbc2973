import RemotePlayback.Proofs.Session.Run

/-! Where link and snapshot stand in each phase.

The link and the snapshot are two cells that are set at different times, so that a snapshot of an
earlier attempt can stand beside no link, or beside the link of this attempt. `Placed` says phase by
phase which of these can be, and that what is pending belongs to the past of the snapshot. It is
kept by every change, and so holds at every moment of a run. -/

namespace RemotePlayback.Session

open Playback Dealer

namespace Core

/-- Nothing was seen on the current attempt yet, and it has no link. -/
structure Unlinked (k : Core) : Prop where
  link : k.link = none
  earlier : k.snapshot.epoch < k.epoch

/-- The link and the snapshot are those of the current attempt. -/
structure Linked (k : Core) : Prop where
  link : ∃ id, k.link = some ⟨id, k.epoch⟩
  current : k.snapshot.epoch = k.epoch

/-- What link and snapshot are in each phase. -/
def InPhase (k : Core) : Prop :=
  match k.phase with
  | .seeking | .greeting | .announcing _ => k.Unlinked
  | .adopting _ => (∃ id, k.link = some ⟨id, k.epoch⟩) ∧ k.snapshot.epoch < k.epoch
  | .live => k.Linked
  | .spent => k.Unlinked ∨ k.Linked
  | .down => k.link = none ∧ k.snapshot.epoch ≤ k.epoch

/-- **The invariant of link and snapshot.** -/
structure Placed (k : Core) : Prop where
  begun : 0 < k.epoch
  phase : k.InPhase
  calls : ∀ call ∈ k.calls, call.link.epoch ≤ k.snapshot.epoch
  counted : ∀ call ∈ k.calls, call.number ≤ k.callCount
  distinct : k.calls.Pairwise (·.number < ·.number)

variable {k k' : Core} {i : Input} {effects : List Effect}

/-! ## What the invariant gives -/

/-- The snapshot is never from an attempt to come. -/
theorem Placed.snapshot_le (h : k.Placed) : k.snapshot.epoch ≤ k.epoch := by
  have phase := h.phase
  unfold InPhase at phase
  split at phase
  case h_1 | h_2 | h_3 => exact Nat.le_of_lt phase.earlier
  case h_4 => exact Nat.le_of_lt phase.2
  case h_5 => exact Nat.le_of_eq phase.current
  case h_6 =>
    rcases phase with unlinked | linked
    · exact Nat.le_of_lt unlinked.earlier
    · exact Nat.le_of_eq linked.current
  case h_7 => exact phase.2

/-- A link is the one of the current attempt. -/
theorem Placed.link_epoch {link : Link} (h : k.Placed) (linked : k.link = some link) :
    link.epoch = k.epoch := by
  have of_link (there : ∃ id, k.link = some ⟨id, k.epoch⟩) : link.epoch = k.epoch := by
    obtain ⟨id, eq⟩ := there
    rw [← Option.some.inj (eq.symm.trans linked)]
  have of_none (gone : k.link = none) : link.epoch = k.epoch :=
    absurd (gone.symm.trans linked) nofun
  have phase := h.phase
  unfold InPhase at phase
  split at phase
  case h_1 | h_2 | h_3 => exact of_none phase.link
  case h_4 => exact of_link phase.1
  case h_5 => exact of_link phase.link
  case h_6 =>
    rcases phase with unlinked | linked
    · exact of_none unlinked.link
    · exact of_link linked.link
  case h_7 => exact of_none phase.1

/-- Whatever is published is published with the epoch of the current attempt. -/
theorem Placed.publishes_epoch {c : Cluster.State} {epoch : Nat} (h : k.Placed)
    (source : Publishes k i c epoch) : epoch = k.epoch := by
  cases source with
  | adopted | pushed => rfl
  | answered _ linked => exact h.link_epoch linked

/-- While a call of the current link is pending, the snapshot is of that link. -/
theorem Placed.seen_of_pending {call : Call} (h : k.Placed) (pending : call ∈ k.calls)
    (linked : k.link = some call.link) : k.snapshot.epoch = call.link.epoch := by
  have le := h.calls call pending
  have eq := h.link_epoch linked
  have bound := h.snapshot_le
  omega

/-- A call is found by its number. -/
theorem Placed.find?_call {call : Call} (h : k.Placed) (pending : call ∈ k.calls) :
    k.calls.find? (·.number == call.number) = some call := by
  have distinct := h.distinct
  generalize k.calls = calls at pending distinct
  induction calls with
  | nil => cases pending
  | cons head rest ih =>
    obtain ⟨below, distinct⟩ := List.pairwise_cons.mp distinct
    rcases List.mem_cons.mp pending with rfl | later
    · exact List.find?_cons_of_pos (by simp)
    · have ne : head.number ≠ call.number := Nat.ne_of_lt (below call later)
      rw [List.find?_cons_of_neg (by simpa using ne)]
      exact ih later distinct

/-! ## Keeping it -/

/-- The phase stays right while nothing that it speaks of changes. -/
theorem InPhase.congr (h : k.InPhase) (phase : k'.phase = k.phase) (link : k'.link = k.link)
    (epoch : k'.epoch = k.epoch) (snapshot : k'.snapshot.epoch = k.snapshot.epoch) :
    k'.InPhase := by
  unfold InPhase at h ⊢
  rw [phase]
  split at h
  case h_1 | h_2 | h_3 => exact ⟨link.trans h.link, by rw [snapshot, epoch]; exact h.earlier⟩
  case h_4 => exact ⟨by rw [link, epoch]; exact h.1, by rw [snapshot, epoch]; exact h.2⟩
  case h_5 =>
    exact ⟨by rw [link, epoch]; exact h.link, by rw [snapshot, epoch]; exact h.current⟩
  case h_6 =>
    refine h.imp (fun h => ⟨link.trans h.link, ?_⟩) fun h => ⟨?_, ?_⟩
    · rw [snapshot, epoch]; exact h.earlier
    · rw [link, epoch]; exact h.link
    · rw [snapshot, epoch]; exact h.current
  case h_7 => exact ⟨link.trans h.1, by rw [snapshot, epoch]; exact h.2⟩

/-- Each change leads to a phase that link and snapshot are right for. -/
theorem InPhase.change (h : k.Placed) (change : Change k i k' effects) : k'.InPhase := by
  have here := h.phase
  cases change with
  | quiet | report | drop | post => exact here.congr rfl rfl rfl rfl
  | connect phase | greet phase =>
    rw [InPhase, phase] at here
    exact ⟨here.link, here.earlier⟩
  | announced phase =>
    rw [InPhase, phase] at here
    exact ⟨⟨_, rfl⟩, here.earlier⟩
  | adopt phase =>
    rw [InPhase, phase] at here
    exact ⟨here.1, rfl⟩
  | push phase =>
    -- the new snapshot is of this attempt, as the one before it was
    have linked := here
    rw [InPhase, phase] at linked
    exact here.congr rfl rfl rfl linked.current.symm
  | answer _ _ seen =>
    -- only an answer of the snapshot's own epoch is published
    exact here.congr rfl rfl rfl seen.symm
  | fall phase =>
    unfold InPhase at here
    split at here
    case h_1 eq | h_4 eq | h_6 eq | h_7 eq =>
      rw [eq] at phase
      exact phase.elim
    -- before the answer to the announcement there is neither link nor snapshot, then both
    case h_2 | h_3 => exact .inl ⟨here.link, here.earlier⟩
    case h_5 => exact .inr ⟨here.link, here.current⟩
  | finish => exact ⟨rfl, h.snapshot_le⟩
  | attempt phase =>
    rw [InPhase, phase] at here
    exact ⟨here.1, Nat.lt_succ_of_le here.2⟩

/-- The epoch of the snapshot never decreases. -/
theorem Placed.snapshot_mono (h : k.Placed) (change : Change k i k' effects) :
    k.snapshot.epoch ≤ k'.snapshot.epoch := by
  rcases change.publishes_or with ⟨-, same, -⟩ | ⟨c, epoch, source, -, next, -⟩
  · exact Nat.le_of_eq (congrArg _ same.symm)
  · have current : k'.snapshot.epoch = epoch := congrArg Snapshot.epoch next
    rw [current, h.publishes_epoch source]
    exact h.snapshot_le

/-- **Every change keeps link and snapshot in place.** -/
theorem Placed.change (h : k.Placed) (change : Change k i k' effects) : k'.Placed := by
  have mono := h.snapshot_mono change
  have begun : 0 < k'.epoch := by
    rcases change.attempts_or with ⟨-, -, next⟩ | ⟨-, same⟩
    · omega
    · exact same ▸ h.begun
  rcases change.calls_or with ⟨count, sublist⟩ | ⟨link, linked, seen, -, count, calls⟩
  · refine ⟨begun, .change h change, fun call mem => ?_, fun call mem => ?_,
      h.distinct.sublist sublist⟩
    · exact Nat.le_trans (h.calls call (sublist.subset mem)) mono
    · exact count ▸ h.counted call (sublist.subset mem)
  · have below : ∀ call ∈ k.calls, call.number < k.callCount + 1 := fun call mem =>
      Nat.lt_succ_of_le (h.counted call mem)
    refine ⟨begun, .change h change, ?_, ?_, ?_⟩ <;> rw [calls]
    · exact forall_mem_concat (fun call mem => Nat.le_trans (h.calls call mem) mono)
        (Nat.le_trans (Nat.le_of_eq seen.symm) mono)
    · rw [count]
      exact forall_mem_concat (fun call mem => Nat.le_of_lt (below call mem)) (Nat.le_refl _)
    · refine List.pairwise_append.mpr ⟨h.distinct, List.pairwise_singleton _ _, ?_⟩
      exact fun call mem => List.forall_mem_singleton.mpr (below call mem)

end Core

/-- Link and snapshot are in place at the start. -/
theorem start_placed (config : Config) (now : Int64) : (start config now).1.core.Placed := by
  rw [start, attempt_core]
  refine ⟨Nat.zero_lt_one, ⟨rfl, Nat.zero_lt_one⟩, ?_, ?_, .nil⟩
  · exact fun call mem => nomatch mem
  · exact fun call mem => nomatch mem

/-- **Link and snapshot are in place throughout a run.** -/
theorem Run.placed {config : Config} {now : Int64} {ms : List Moment} {s : Session}
    (run : Run config now ms s) : s.core.Placed := by
  induction run with
  | start => exact start_placed config now
  | step run h ih => exact ih.change (step?_change h)

end RemotePlayback.Session
