import RemotePlayback.Paging.Position

/-!
Positions and the flat list.

Counted through all pages, every track has one index. `Position.index` is the count in front of a
position, `locate?` goes back from the index to the position, and the other ways of moving over
pages are said through these two: what settles from a slot is what stands at its index, and what
precedes a track is what stands one index below.

The main statements are `locate?_eq_some_iff` (`locate?` inverts `index` on the tracks there are),
`Slot.settle?_eq_locate?`, `Holds.predecessor?_eq_locate?` and `Holds.track?_eq_getElem?`. Appending
pages moves nothing (`Holds.index_append`, `Holds.append`).
-/

namespace RemotePlayback.Paging

/-- The tracks of all pages, one after the other. -/
def allTracks (pages : List Page) : List Track := pages.flatMap (·.tracks)

@[simp] theorem allTracks_nil : allTracks [] = [] := rfl

@[simp] theorem allTracks_cons (page : Page) (pages : List Page) :
    allTracks (page :: pages) = page.tracks ++ allTracks pages := rfl

@[simp] theorem allTracks_append (pages more : List Page) :
    allTracks (pages ++ more) = allTracks pages ++ allTracks more :=
  List.flatMap_append

@[simp] theorem trackCount_nil : trackCount [] = 0 := rfl

@[simp] theorem trackCount_cons (page : Page) (pages : List Page) :
    trackCount (page :: pages) = page.tracks.length + trackCount pages := rfl

@[simp] theorem trackCount_append (pages more : List Page) :
    trackCount (pages ++ more) = trackCount pages + trackCount more := by
  induction pages with
  | nil => simp
  | cons page pages ih => simp [ih, Nat.add_assoc]

theorem length_allTracks (pages : List Page) :
    (allTracks pages).length = trackCount pages := by
  induction pages with
  | nil => rfl
  | cons page pages ih => simp [ih]

theorem trackCount_take_le (pages : List Page) (k : Nat) :
    trackCount (pages.take k) ≤ trackCount pages := by
  have h := trackCount_append (pages.take k) (pages.drop k)
  rw [List.take_append_drop] at h
  omega

namespace Position

/-! ## Tracks that are there -/

/-- A track stands at the position. -/
def Holds (pages : List Page) (p : Position) : Prop :=
  ∃ page, pages[p.page]? = some page ∧ p.track < page.tracks.length

/-- The position is a track's or the place behind the last track of a page; every position behind
all pages is one as well. -/
def Slot (pages : List Page) (p : Position) : Prop :=
  ∀ page, pages[p.page]? = some page → p.track ≤ page.tracks.length

/-- How many tracks stand in front of a position. -/
def index (pages : List Page) (p : Position) : Nat :=
  trackCount (pages.take p.page) + p.track

theorem Holds.slot {pages : List Page} {p : Position} (h : Holds pages p) : Slot pages p := by
  obtain ⟨page, hpage, hlt⟩ := h
  intro page' hpage'
  rw [hpage] at hpage'
  cases hpage'
  exact Nat.le_of_lt hlt

/-- The slot behind a track. -/
theorem Holds.slot_succ {pages : List Page} {p : Position} (h : Holds pages p) :
    Slot pages ⟨p.page, p.track + 1⟩ := by
  obtain ⟨page, hpage, hlt⟩ := h
  intro page' hpage'
  rw [show pages[p.page]? = some page' from hpage'] at hpage
  cases hpage
  exact hlt

theorem slot_zero (pages : List Page) : Slot pages ⟨0, 0⟩ := fun _ _ => Nat.zero_le _

theorem not_holds_nil (p : Position) : ¬ Holds [] p := by
  rintro ⟨page, hpage, -⟩
  simp at hpage

@[simp] theorem holds_cons_zero {page : Page} {pages : List Page} {t : Nat} :
    Holds (page :: pages) ⟨0, t⟩ ↔ t < page.tracks.length := by
  simp [Holds]

@[simp] theorem holds_cons_succ {page : Page} {pages : List Page} {k t : Nat} :
    Holds (page :: pages) ⟨k + 1, t⟩ ↔ Holds pages ⟨k, t⟩ := by
  simp [Holds]

@[simp] theorem index_zero (pages : List Page) (t : Nat) : index pages ⟨0, t⟩ = t := by
  simp [index]

@[simp] theorem index_cons_succ (page : Page) (pages : List Page) (k t : Nat) :
    index (page :: pages) ⟨k + 1, t⟩ = page.tracks.length + index pages ⟨k, t⟩ := by
  simp [index, Nat.add_assoc]

theorem Holds.index_lt {pages : List Page} {p : Position} (h : Holds pages p) :
    index pages p < trackCount pages := by
  obtain ⟨page, hpage, hlt⟩ := h
  obtain ⟨hk, rfl⟩ := List.getElem?_eq_some_iff.mp hpage
  have htake := trackCount_take_le pages (p.page + 1)
  rw [List.take_add_one, hpage, trackCount_append] at htake
  simp [index] at htake ⊢
  omega

theorem Holds.append {pages : List Page} {p : Position} (h : Holds pages p) (more : List Page) :
    Holds (pages ++ more) p := by
  obtain ⟨page, hpage, hlt⟩ := h
  obtain ⟨hk, -⟩ := List.getElem?_eq_some_iff.mp hpage
  exact ⟨page, by rw [List.getElem?_append_left hk, hpage], hlt⟩

theorem Holds.index_append {pages : List Page} {p : Position} (h : Holds pages p)
    (more : List Page) : index (pages ++ more) p = index pages p := by
  obtain ⟨page, hpage, -⟩ := h
  obtain ⟨hk, -⟩ := List.getElem?_eq_some_iff.mp hpage
  rw [index, List.take_append_of_le_length (Nat.le_of_lt hk), index]

/-- A position and its index name one track. -/
theorem Holds.track?_eq_getElem? {pages : List Page} {p : Position} (h : Holds pages p) :
    track? pages p = (allTracks pages)[index pages p]? := by
  obtain ⟨k, t⟩ := p
  induction pages generalizing k with
  | nil => exact absurd h (not_holds_nil _)
  | cons page pages ih =>
    cases k with
    | zero =>
      have hlt : t < page.tracks.length := holds_cons_zero.mp h
      simp [track?, List.getElem?_append_left hlt]
    | succ k =>
      have htail := ih k (holds_cons_succ.mp h)
      simpa [track?, List.getElem?_append_right] using htail

/-! ## From the index to the position -/

theorem locateFrom?_eq_some_iff {pages : List Page} {place n : Nat} {q : Position} :
    locateFrom? place pages n = some q ↔
      ∃ k, q.page = place + k ∧ Holds pages ⟨k, q.track⟩ ∧ index pages ⟨k, q.track⟩ = n := by
  induction pages generalizing place n with
  | nil => simp [locateFrom?, not_holds_nil]
  | cons page pages ih =>
    simp only [locateFrom?]
    constructor
    · intro h
      split at h
      · rename_i hlt
        cases h
        exact ⟨0, rfl, holds_cons_zero.mpr hlt, index_zero _ _⟩
      · rename_i hge
        obtain ⟨k, hk, hholds, hindex⟩ := ih.mp h
        exact ⟨k + 1, by omega, holds_cons_succ.mpr hholds, by rw [index_cons_succ]; omega⟩
    · rintro ⟨k, hk, hholds, hindex⟩
      cases k with
      | zero =>
        rw [index_zero] at hindex
        have hlt := holds_cons_zero.mp hholds
        rw [if_pos (hindex ▸ hlt), ← hindex]
        cases q
        simp_all
      | succ k =>
        rw [index_cons_succ] at hindex
        rw [if_neg (by omega)]
        exact ih.mpr ⟨k, by omega, holds_cons_succ.mp hholds, by omega⟩

/-- **`locate?` inverts `index`**: it finds exactly the position of the track with the index. -/
theorem locate?_eq_some_iff {pages : List Page} {n : Nat} {p : Position} :
    locate? pages n = some p ↔ Holds pages p ∧ index pages p = n := by
  rw [locate?, locateFrom?_eq_some_iff]
  constructor
  · rintro ⟨k, hk, hholds, hindex⟩
    rw [show p = ⟨k, p.track⟩ by cases p; simp_all]
    exact ⟨hholds, hindex⟩
  · rintro ⟨hholds, hindex⟩
    exact ⟨p.page, by omega, hholds, hindex⟩

theorem locateFrom?_eq_none_iff {pages : List Page} {place n : Nat} :
    locateFrom? place pages n = none ↔ trackCount pages ≤ n := by
  induction pages generalizing place n with
  | nil => simp [locateFrom?]
  | cons page pages ih =>
    simp only [locateFrom?, trackCount_cons]
    split
    · simp
      omega
    · rw [ih]
      omega

theorem locate?_eq_none_iff {pages : List Page} {n : Nat} :
    locate? pages n = none ↔ trackCount pages ≤ n :=
  locateFrom?_eq_none_iff

theorem exists_locate? {pages : List Page} {n : Nat} (h : n < trackCount pages) :
    ∃ p, locate? pages n = some p ∧ Holds pages p ∧ index pages p = n := by
  cases hl : locate? pages n with
  | none => exact absurd (locate?_eq_none_iff.mp hl) (by omega)
  | some p => exact ⟨p, rfl, locate?_eq_some_iff.mp hl⟩

theorem locate?_append_left {pages : List Page} {n : Nat} (h : n < trackCount pages)
    (more : List Page) : locate? (pages ++ more) n = locate? pages n := by
  obtain ⟨p, hl, hholds, hindex⟩ := exists_locate? h
  rw [hl, locate?_eq_some_iff]
  exact ⟨hholds.append more, by rw [hholds.index_append, hindex]⟩

/-! ## From a slot onwards, and back -/

theorem first?_eq_locateFrom? (pages : List Page) (place : Nat) :
    first? place pages = locateFrom? place pages 0 := by
  induction pages generalizing place with
  | nil => rfl
  | cons page pages ih =>
    by_cases hempty : page.tracks = []
    · simp [first?, locateFrom?, hempty, ih]
    · have hpos := List.length_pos_iff.mpr hempty
      simp [first?, locateFrom?, hempty, hpos]

theorem locateFrom?_drop (pages : List Page) (place k n : Nat) (hk : k ≤ pages.length) :
    locateFrom? place pages (trackCount (pages.take k) + n) =
      locateFrom? (place + k) (pages.drop k) n := by
  induction k generalizing pages place with
  | zero => simp
  | succ k ih =>
    cases pages with
    | nil => simp at hk
    | cons page pages =>
      have hk' : k ≤ pages.length := by simpa using hk
      rw [List.take_succ_cons, trackCount_cons, List.drop_succ_cons, locateFrom?,
        if_neg (by omega),
        show page.tracks.length + trackCount (pages.take k) + n - page.tracks.length
          = trackCount (pages.take k) + n by omega, ih pages (place + 1) hk',
        show place + 1 + k = place + (k + 1) by omega]

/-- What settles from a slot is the track with the slot's index. -/
theorem Slot.settle?_eq_locate? {pages : List Page} {p : Position} (h : Slot pages p) :
    settle? pages p = locate? pages (index pages p) := by
  unfold settle?
  cases hpage : pages[p.page]? with
  | none =>
    -- behind all pages: every track is in front
    have hk := List.getElem?_eq_none_iff.mp hpage
    rw [eq_comm, locate?_eq_none_iff, index, List.take_of_length_le hk]
    omega
  | some page =>
    obtain ⟨hk, hget⟩ := List.getElem?_eq_some_iff.mp hpage
    by_cases hlt : p.track < page.tracks.length
    · simp only [if_pos hlt]
      exact (locate?_eq_some_iff.mpr ⟨⟨page, hpage, hlt⟩, rfl⟩).symm
    · -- behind the last track of its page: the index is that of the next page's first track
      have hend : p.track = page.tracks.length := by have := h page hpage; omega
      have hindex : index pages p = trackCount (pages.take (p.page + 1)) + 0 := by
        rw [index, hend, List.take_add_one, hpage]
        simp
      simp only [if_neg hlt]
      rw [hindex, locate?, locateFrom?_drop _ _ _ _ hk, first?_eq_locateFrom?, Nat.zero_add]

theorem last?_eq_locateFrom? (pages : List Page) (place : Nat) :
    last? place pages = locateFrom? place pages (trackCount pages - 1) := by
  induction pages generalizing place with
  | nil => rfl
  | cons page pages ih =>
    rw [last?, ih, locateFrom?, trackCount_cons]
    cases hrest : locateFrom? (place + 1) pages (trackCount pages - 1) with
    | some q =>
      have hpos : 0 < trackCount pages := by
        refine Nat.pos_of_ne_zero fun hzero => ?_
        rw [locateFrom?_eq_none_iff.mpr (by omega)] at hrest
        cases hrest
      show some q = _
      rw [if_neg (by omega),
        show page.tracks.length + trackCount pages - 1 - page.tracks.length
          = trackCount pages - 1 by omega, hrest]
    | none =>
      have hzero : trackCount pages = 0 := by
        have := locateFrom?_eq_none_iff.mp hrest
        omega
      show (if page.tracks = [] then none
        else some (Position.mk place (page.tracks.length - 1))) = _
      rw [hzero] at hrest ⊢
      by_cases hempty : page.tracks = []
      · rw [if_pos hempty, if_neg (by simp [hempty]), hempty]
        exact hrest.symm
      · have hpos := List.length_pos_iff.mpr hempty
        rw [if_neg hempty, if_pos (by omega)]
        rfl

/-- What precedes a track has the index below; nothing precedes the first one. -/
theorem Holds.predecessor?_eq_locate? {pages : List Page} {p : Position} (h : Holds pages p) :
    predecessor? pages p =
      if index pages p = 0 then none else locate? pages (index pages p - 1) := by
  obtain ⟨page, hpage, hlt⟩ := h
  unfold predecessor?
  by_cases htrack : 0 < p.track
  · have hbelow : Holds pages ⟨p.page, p.track - 1⟩ := ⟨page, hpage, by simp only; omega⟩
    have hindex : index pages ⟨p.page, p.track - 1⟩ = index pages p - 1 := by
      simp only [index]
      omega
    rw [if_pos htrack, if_neg (by simp only [index]; omega), eq_comm]
    exact locate?_eq_some_iff.mpr ⟨hbelow, hindex⟩
  · have hindex : index pages p = trackCount (pages.take p.page) := by
      simp only [index]
      omega
    rw [if_neg htrack, hindex, last?_eq_locateFrom?]
    split
    · rename_i hzero
      rw [locateFrom?_eq_none_iff]
      omega
    · have hbelow : trackCount (pages.take p.page) - 1 < trackCount (pages.take p.page) := by
        omega
      have happ := locate?_append_left hbelow (pages.drop p.page)
      rw [List.take_append_drop] at happ
      rw [happ, locate?]

end Position

end RemotePlayback.Paging
