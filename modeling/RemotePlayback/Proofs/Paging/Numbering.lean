import Mathlib.Logic.ExistsUnique
import RemotePlayback.Proofs.Paging.Position

/-!
Tracks are numbered in the order in which they stand.

Page by page, and on a page one track after the other, is the order of positions (`Precedes`). The
index of a track follows this order, so `locate?` numbers all tracks without a gap; and settling
just behind a track and going back from one are the two directions of one step in that numbering.
The main statement is `tracks_are_numbered_in_order`.
-/

namespace RemotePlayback.Paging

namespace Position

variable {pages : List Page} {p q : Position} {n : Nat}

/-! ## The order of positions -/

/-- **The order of positions**: on an earlier page, or earlier on the same page. -/
def Precedes (p q : Position) : Prop := p.page < q.page ∨ p.page = q.page ∧ p.track < q.track

/-- The place just behind a track of a page. -/
def behind (p : Position) : Position := ⟨p.page, p.track + 1⟩

@[simp] theorem index_behind (pages : List Page) (p : Position) :
    index pages p.behind = index pages p + 1 := by
  simp only [index, behind]
  omega

theorem precedes_trichotomy (p q : Position) : p.Precedes q ∨ p = q ∨ q.Precedes p := by
  rcases p with ⟨page, track⟩
  rcases q with ⟨page', track'⟩
  simp only [Precedes, Position.mk.injEq]
  omega

theorem trackCount_take_mono {j k : Nat} (h : j ≤ k) :
    trackCount (pages.take j) ≤ trackCount (pages.take k) := by
  have fewer := trackCount_take_le (pages.take k) j
  rwa [List.take_take, Nat.min_eq_left h] at fewer

/-- A track is counted with every page behind its own. -/
theorem Holds.index_lt_take {k : Nat} (h : Holds pages p) (hk : p.page < k) :
    index pages p < trackCount (pages.take k) := by
  obtain ⟨page, hpage, hlt⟩ := h
  have own : trackCount (pages.take (p.page + 1)) =
      trackCount (pages.take p.page) + page.tracks.length := by
    rw [List.take_add_one, hpage]
    simp
  have later : trackCount (pages.take (p.page + 1)) ≤ trackCount (pages.take k) :=
    trackCount_take_mono hk
  simp only [index]
  omega

theorem Holds.index_lt_of_precedes (h : Holds pages p) (front : p.Precedes q) :
    index pages p < index pages q := by
  rcases front with earlier | ⟨same, before⟩
  · have counted := h.index_lt_take earlier
    simp only [index] at counted ⊢
    omega
  · simp only [index, same]
    omega

/-- **The index follows the order of positions.** -/
theorem Holds.index_lt_iff (hp : Holds pages p) (hq : Holds pages q) :
    index pages p < index pages q ↔ p.Precedes q := by
  constructor
  · intro below
    rcases precedes_trichotomy p q with front | rfl | front
    · exact front
    · exact absurd below (Nat.lt_irrefl _)
    · exact absurd below (Nat.lt_asymm (hq.index_lt_of_precedes front))
  · exact hp.index_lt_of_precedes

/-! ## One step forwards and back -/

/-- Behind a track comes the one with the next index. -/
theorem Holds.settle?_behind_eq_some_iff (h : Holds pages p) :
    settle? pages p.behind = some q ↔ Holds pages q ∧ index pages q = index pages p + 1 := by
  have slot : Slot pages p.behind := h.slot_succ
  rw [slot.settle?_eq_locate?, locate?_eq_some_iff, index_behind]

/-- In front of a track comes the one with the index below. -/
theorem Holds.predecessor?_eq_some_iff (h : Holds pages q) :
    predecessor? pages q = some p ↔ Holds pages p ∧ index pages q = index pages p + 1 := by
  rw [h.predecessor?_eq_locate?]
  by_cases zero : index pages q = 0
  · simp [zero]
  · rw [if_neg zero, locate?_eq_some_iff]
    exact and_congr_right fun _ => by omega

/-- Nothing comes behind the last track of all, and behind that one alone. -/
theorem Holds.settle?_behind_eq_none_iff (h : Holds pages p) :
    settle? pages p.behind = none ↔ ∀ q, Holds pages q → ¬p.Precedes q := by
  constructor
  · intro none q there front
    have above := (h.index_lt_iff there).mpr front
    obtain ⟨r, -, held, next⟩ := exists_locate? (n := index pages p + 1)
      (Nat.lt_of_le_of_lt above there.index_lt)
    rw [h.settle?_behind_eq_some_iff.mpr ⟨held, next⟩] at none
    cases none
  · intro last
    cases settled : settle? pages p.behind with
    | none => rfl
    | some q =>
      obtain ⟨there, next⟩ := h.settle?_behind_eq_some_iff.mp settled
      exact absurd ((h.index_lt_iff there).mp (by omega)) (last q there)

/-- Nothing comes in front of the first track of all, and of that one alone. -/
theorem Holds.predecessor?_eq_none_iff (h : Holds pages q) :
    predecessor? pages q = none ↔ ∀ p, Holds pages p → ¬p.Precedes q := by
  constructor
  · intro none p there front
    have below := (there.index_lt_iff h).mpr front
    obtain ⟨r, -, held, previous⟩ := exists_locate? (n := index pages q - 1)
      (Nat.lt_of_le_of_lt (Nat.sub_le _ 1) h.index_lt)
    rw [h.predecessor?_eq_some_iff.mpr ⟨held, by omega⟩] at none
    cases none
  · intro first
    cases preceding : predecessor? pages q with
    | none => rfl
    | some p =>
      obtain ⟨there, previous⟩ := h.predecessor?_eq_some_iff.mp preceding
      exact absurd ((there.index_lt_iff h).mp (by omega)) (first p there)

end Position

open Position

/-- **Tracks are numbered in the order in which they stand**, on any pages. `locate?` takes the
indices below the count of all tracks to the positions of tracks, each of which it reaches by one
index, and every other index nowhere; and it keeps the order. Of two tracks the second one settles
from just behind the first exactly if the first precedes it; nothing settles behind the last track
of all, and nothing precedes the first one. -/
theorem tracks_are_numbered_in_order (pages : List Page) :
    (∀ n, n < trackCount pages → ∃ p, locate? pages n = some p ∧ Holds pages p) ∧
    (∀ n, trackCount pages ≤ n → locate? pages n = none) ∧
    (∀ p, Holds pages p → ∃! n, n < trackCount pages ∧ locate? pages n = some p) ∧
    (∀ m n p q, locate? pages m = some p → locate? pages n = some q → (m < n ↔ p.Precedes q)) ∧
    (∀ p q, Holds pages p → Holds pages q →
      (settle? pages p.behind = some q ↔ predecessor? pages q = some p)) ∧
    (∀ p, Holds pages p →
      (settle? pages p.behind = none ↔ ∀ q, Holds pages q → ¬p.Precedes q)) ∧
    ∀ q, Holds pages q → (predecessor? pages q = none ↔ ∀ p, Holds pages p → ¬p.Precedes q) := by
  refine ⟨?_, ?_, ?_, ?_, ?_, fun p => Holds.settle?_behind_eq_none_iff,
    fun q => Holds.predecessor?_eq_none_iff⟩
  · intro n below
    obtain ⟨p, located, held, -⟩ := exists_locate? below
    exact ⟨p, located, held⟩
  · intro n above
    exact locate?_eq_none_iff.mpr above
  · intro p held
    refine ⟨index pages p, ⟨held.index_lt, locate?_eq_some_iff.mpr ⟨held, rfl⟩⟩, ?_⟩
    rintro n ⟨-, located⟩
    exact (locate?_eq_some_iff.mp located).2.symm
  · intro m n p q locatedAtM locatedAtN
    obtain ⟨heldP, rfl⟩ := locate?_eq_some_iff.mp locatedAtM
    obtain ⟨heldQ, rfl⟩ := locate?_eq_some_iff.mp locatedAtN
    exact heldP.index_lt_iff heldQ
  · intro p q heldP heldQ
    rw [heldP.settle?_behind_eq_some_iff, heldQ.predecessor?_eq_some_iff]
    exact and_congr_left fun _ => iff_of_true heldQ heldP

/-- Empty pages stand in front of two tracks, between them and behind them. -/
theorem empty_pages_are_passed_over :
    let page (uris : List String) : Page := ⟨uris.map fun uri => { uri }, none⟩
    let pages := [page [], page ["a"], page [], page [], page ["b"], page []]
    Holds pages ⟨1, 0⟩ ∧ Holds pages ⟨4, 0⟩ ∧
      settle? pages (behind ⟨1, 0⟩) = some ⟨4, 0⟩ ∧ predecessor? pages ⟨4, 0⟩ = some ⟨1, 0⟩ := by
  intro page pages
  have first : Holds pages ⟨1, 0⟩ := ⟨page ["a"], rfl, by decide⟩
  have second : Holds pages ⟨4, 0⟩ := ⟨page ["b"], rfl, by decide⟩
  have settled : settle? pages (behind ⟨1, 0⟩) = some ⟨4, 0⟩ := by decide
  obtain ⟨-, -, -, -, step, -⟩ := tracks_are_numbered_in_order pages
  exact ⟨first, second, settled, (step _ _ first second).mp settled⟩

end RemotePlayback.Paging
