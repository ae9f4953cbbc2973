import RemotePlayback.Proofs.Paging.FixedPages

/-!
A walk over pages is a cursor over a list.

`PlainCursor` knows nothing of pages: it stands at an index of a list, or just before one. A walk
over a fixed list of pages answers every sequence of moves like the plain cursor over all its
tracks (`run_ofPages`), wherever the pages are cut and however many of them are empty, as long as
no gap is longer than what a fetch bears.

The walk follows the cursor (`Follows`) when its pages are the first ones of the list and both
stand at the same track; every move keeps this, those that fetch as well as those that fail.
-/

namespace RemotePlayback.Paging

open Source Walk

/-! ## The plain cursor -/

/-- A cursor over a list. -/
inductive PlainCursor where
  | start
  | at (i : Nat)
  /-- The element with the index comes next. -/
  | before (i : Nat)
  deriving DecidableEq, Inhabited

namespace PlainCursor

variable (l : List Track)

/-- The index that comes next. -/
def candidate : PlainCursor → Nat
  | .start => 0
  | .at i => i + 1
  | .before i => i

/-- Goes on if there is an element left. -/
def next (c : PlainCursor) : Option Track × PlainCursor :=
  match l[c.candidate]? with
  | some t => (some t, .at c.candidate)
  | none => (none, c)

/-- Goes back, unless at the start or at the first element. -/
def previous (c : PlainCursor) : Option Track × PlainCursor :=
  match c with
  | .start | .at 0 | .before 0 => (none, c)
  | .at (i + 1) | .before (i + 1) => (l[i]?, .at i)

/-- Goes to just before an element, if there is one with the index. -/
def seek (n : Nat) (c : PlainCursor) : Bool × PlainCursor :=
  if n < l.length then (true, .before n) else (false, c)

/-- Goes on so many times, or until nothing is left. -/
def skip : Nat → PlainCursor → Bool × PlainCursor
  | 0, c => (true, c)
  | n + 1, c =>
    match c.next l with
    | (some _, c) => skip n c
    | (none, c) => (false, c)

/-- The element at the cursor. -/
def current? : PlainCursor → Option Track
  | .at i => l[i]?
  | _ => none

/-- Does a move. -/
def perform (c : PlainCursor) : Move → Reply × PlainCursor
  | .next => let (t, c) := c.next l; (.track t, c)
  | .previous => let (t, c) := c.previous l; (.track t, c)
  | .seek n => let (b, c) := c.seek l n; (.moved b, c)
  | .skip n => let (b, c) := c.skip l n; (.moved b, c)
  | .current => (.track (c.current? l), c)

/-- The answers to one move after the other. -/
def replies (c : PlainCursor) : List Move → List Reply
  | [] => []
  | m :: moves =>
    let (reply, c) := c.perform l m
    reply :: c.replies moves

end PlainCursor

/-! ## Following the plain cursor -/

/-- A place among the pages and a plain cursor are the same spot. -/
inductive SameSpot (pages : List Page) : Cursor → PlainCursor → Prop where
  | start : SameSpot pages .start .start
  | at {p : Position} : p.Holds pages → SameSpot pages (.at p) (.at (p.index pages))
  | before {p : Position} : p.Holds pages → SameSpot pages (.before p) (.before (p.index pages))

/-- New pages move nothing. -/
theorem SameSpot.append {pages : List Page} {spot : Cursor} {c : PlainCursor}
    (h : SameSpot pages spot c) (more : List Page) : SameSpot (pages ++ more) spot c := by
  cases h with
  | start => exact .start
  | «at» hp =>
    rw [← hp.index_append more]
    exact .at (hp.append more)
  | before hp =>
    rw [← hp.index_append more]
    exact .before (hp.append more)

/-- The walk has fetched the first pages of the list and stands where the cursor stands. -/
structure Follows (all : List Page) (w : Walk Unit) (c : PlainCursor) : Prop where
  fetched : ∃ k, Fetched all k w
  spot : SameSpot w.pages w.cursor c

variable {all : List Page} {w w' : Walk Unit} {c : PlainCursor}

theorem follows_start (all : List Page) : Follows all { source := () } .start :=
  ⟨⟨0, Nat.zero_le _, rfl⟩, .start⟩

/-- The tracks of the pages that were fetched are the first ones of all. -/
theorem Follows.getElem?_eq (h : Follows all w c) {i : Nat} (hi : i < trackCount w.pages) :
    (allTracks w.pages)[i]? = (allTracks all)[i]? := by
  obtain ⟨k, hk⟩ := h.fetched
  have hfirst : allTracks w.pages = allTracks (all.take k) := by
    rw [hk.pages, allTracks_take_numbered]
  have hall : allTracks all = allTracks w.pages ++ allTracks (all.drop k) := by
    rw [hfirst, ← allTracks_append, List.take_append_drop]
  rw [hall, List.getElem?_append_left (by rwa [length_allTracks])]

theorem Follows.trackCount_le (h : Follows all w c) :
    trackCount w.pages ≤ (allTracks all).length := by
  obtain ⟨k, hk⟩ := h.fetched
  rw [hk.trackCount, length_allTracks]
  exact trackCount_take_le all k

/-- Both look for the next track at the same place, which no known track is in front of in vain. -/
theorem Follows.candidate (h : Follows all w c) :
    w.candidate.Slot w.pages ∧ w.candidate.index w.pages = c.candidate ∧
      c.candidate ≤ trackCount w.pages := by
  have hspot := h.spot
  unfold Walk.candidate
  generalize w.cursor = spot at hspot
  cases hspot with
  | start => exact ⟨Position.slot_zero _, Position.index_zero _ _, Nat.zero_le _⟩
  | «at» hp => exact ⟨hp.slot_succ, rfl, hp.index_lt⟩
  | before hp => exact ⟨hp.slot, rfl, Nat.le_of_lt hp.index_lt⟩

/-- Stepping onto a position is reading the track with its index. -/
theorem Follows.moveTo (h : Follows all w c) {p : Position} (hp : p.Holds w.pages) :
    (w.moveTo p).1 = (allTracks all)[p.index w.pages]? ∧
      Follows all (w.moveTo p).2 (.at (p.index w.pages)) :=
  ⟨by rw [← h.getElem?_eq hp.index_lt, ← hp.track?_eq_getElem?]; rfl,
    ⟨h.fetched.imp fun _ hk => ⟨hk.le, hk.pages⟩, .at hp⟩⟩

/-- A fetch moves neither; it brings a new track or shows that all are known. -/
theorem Follows.fetch (h : Follows all w c) (hsize : all.length ≤ 2 ^ 64) (hgaps : ShortGaps all) :
    ∃ w', Follows all w' c ∧
      (fetchTracks (ofPages all) w = (.ok true, w') ∧ trackCount w.pages < trackCount w'.pages ∨
        fetchTracks (ofPages all) w = (.ok false, w') ∧
          trackCount w.pages = (allTracks all).length) := by
  obtain ⟨k, hk⟩ := h.fetched
  obtain ⟨k', hk', hcursor, hle, hend⟩ := hk.fetchTracks hsize hgaps
  generalize fetchTracks (ofPages all) w = r at hk' hcursor hend
  obtain ⟨answer, w'⟩ := r
  have hpages : w'.pages = w.pages ++ ((numbered 0 all).drop k).take (k' - k) := by
    rw [hk'.pages, hk.pages, ← List.take_add, Nat.add_sub_cancel' hle]
  refine ⟨w', ⟨⟨k', hk'⟩, ?_⟩, ?_⟩
  · rw [show w'.cursor = w.cursor from hcursor, hpages]
    exact h.spot.append _
  · rw [← hk.trackCount, ← hk'.trackCount, ← length_allTracks all] at hend
    exact hend.imp (fun ⟨hans, hlt⟩ => ⟨Prod.ext hans rfl, hlt⟩)
      (fun ⟨hans, hall⟩ => ⟨Prod.ext hans rfl, hall⟩)

/-! ## The moves, one by one -/

/-- Where the next track is known, going on is stepping onto it. -/
theorem Follows.settle (h : Follows all w c) (hlt : c.candidate < trackCount w.pages) :
    ∃ p, w.candidate.settle? w.pages = some p ∧
      (w.moveTo p).1 = (c.next (allTracks all)).1 ∧
      Follows all (w.moveTo p).2 (c.next (allTracks all)).2 := by
  obtain ⟨hslot, hindex, -⟩ := h.candidate
  obtain ⟨p, hl, hholds, hp⟩ := Position.exists_locate? hlt
  obtain ⟨htrack, hfollows⟩ := h.moveTo hholds
  have hthere : c.candidate < (allTracks all).length := Nat.lt_of_lt_of_le hlt h.trackCount_le
  have hnext : c.next (allTracks all) = ((allTracks all)[c.candidate]?, .at c.candidate) := by
    simp [PlainCursor.next, List.getElem?_eq_getElem hthere]
  rw [hp] at htrack hfollows
  rw [hnext]
  exact ⟨p, by rw [hslot.settle?_eq_locate?, hindex, hl], htrack, hfollows⟩

theorem Follows.next (h : Follows all w c) (hsize : all.length ≤ 2 ^ 64) (hgaps : ShortGaps all) :
    (Walk.next (ofPages all) w).1 = .ok (c.next (allTracks all)).1 ∧
      Follows all (Walk.next (ofPages all) w).2 (c.next (allTracks all)).2 := by
  obtain ⟨hslot, hindex, hle⟩ := h.candidate
  by_cases hlt : c.candidate < trackCount w.pages
  · obtain ⟨p, hsettle, htrack, hfollows⟩ := h.settle hlt
    have hstep : Walk.next (ofPages all) w = (.ok (w.moveTo p).1, (w.moveTo p).2) := by
      simp only [Walk.next, hsettle]
    rw [hstep]
    exact ⟨congrArg _ htrack, hfollows⟩
  · have hnone : w.candidate.settle? w.pages = none := by
      rw [hslot.settle?_eq_locate?, hindex, Position.locate?_eq_none_iff]
      omega
    obtain ⟨w', hfetched, ⟨hfetch, hmore⟩ | ⟨hfetch, hall⟩⟩ := h.fetch hsize hgaps
    · -- the new tracks begin right at the candidate
      obtain ⟨p, hsettle, htrack, hfollows⟩ := hfetched.settle (by omega)
      have hstep : Walk.next (ofPages all) w = (.ok (w'.moveTo p).1, (w'.moveTo p).2) := by
        simp only [Walk.next, hnone, hfetch, hsettle]
      rw [hstep]
      exact ⟨congrArg _ htrack, hfollows⟩
    · have hstep : Walk.next (ofPages all) w = (.ok none, w') := by
        simp only [Walk.next, hnone, hfetch]
      have hplain : c.next (allTracks all) = (none, c) := by
        have hpast : (allTracks all)[c.candidate]? = none := List.getElem?_eq_none (by omega)
        simp only [PlainCursor.next, hpast]
      rw [hstep, hplain]
      exact ⟨rfl, hfetched⟩

/-- What stands one index below is what precedes. -/
theorem Follows.precede (h : Follows all w c) {p : Position} (hp : p.Holds w.pages) :
    (p.index w.pages = 0 ∧ p.predecessor? w.pages = none) ∨
      ∃ i q, p.index w.pages = i + 1 ∧ p.predecessor? w.pages = some q ∧
        (w.moveTo q).1 = (allTracks all)[i]? ∧ Follows all (w.moveTo q).2 (.at i) := by
  rw [hp.predecessor?_eq_locate?]
  have hlt := hp.index_lt
  cases hi : p.index w.pages with
  | zero => exact .inl ⟨rfl, rfl⟩
  | succ i =>
    obtain ⟨q, hl, hholds, hq⟩ := Position.exists_locate? (show i < trackCount w.pages by omega)
    obtain ⟨htrack, hfollows⟩ := h.moveTo hholds
    rw [hq] at htrack hfollows
    exact .inr ⟨i, q, rfl, by simpa using hl, htrack, hfollows⟩

theorem Follows.previous (h : Follows all w c) :
    w.previous.1 = (c.previous (allTracks all)).1 ∧
      Follows all w.previous.2 (c.previous (allTracks all)).2 := by
  have hspot := h.spot
  unfold Walk.previous
  generalize hcursor : w.cursor = spot at hspot
  cases hspot with
  | start => exact ⟨rfl, h⟩
  | @«at» p hp | @before p hp =>
    rcases h.precede hp with ⟨hzero, hnone⟩ | ⟨i, q, hi, hsome, htrack, hfollows⟩
    · rw [hzero] at h ⊢
      simp only [hnone]
      exact ⟨rfl, h⟩
    · rw [hi]
      simp only [hsome]
      exact ⟨htrack, hfollows⟩

/-- A track that is known is found without a fetch. -/
theorem Follows.seekWithin_of_lt (h : Follows all w c) {n : Nat} (hlt : n < trackCount w.pages)
    (fetches : Nat) :
    (Walk.seekWithin (ofPages all) n fetches w).1 = .ok (c.seek (allTracks all) n).1 ∧
      Follows all (Walk.seekWithin (ofPages all) n fetches w).2 (c.seek (allTracks all) n).2 := by
  obtain ⟨p, hl, hholds, hp⟩ := Position.exists_locate? hlt
  have hstep : Walk.seekWithin (ofPages all) n fetches w =
      (.ok true, { w with cursor := .before p }) := by
    unfold Walk.seekWithin
    simp only [hl]
  rw [hstep, PlainCursor.seek, if_pos (Nat.lt_of_lt_of_le hlt h.trackCount_le)]
  exact ⟨rfl, h.fetched.imp fun _ hk => ⟨hk.le, hk.pages⟩, hp ▸ .before hholds⟩

/-- Each fetch that goes on brings a track, so the missing tracks are fetches enough. -/
theorem Follows.seekWithin (h : Follows all w c) (hsize : all.length ≤ 2 ^ 64)
    (hgaps : ShortGaps all) (n fetches : Nat) (henough : n < trackCount w.pages + fetches) :
    (Walk.seekWithin (ofPages all) n fetches w).1 = .ok (c.seek (allTracks all) n).1 ∧
      Follows all (Walk.seekWithin (ofPages all) n fetches w).2 (c.seek (allTracks all) n).2 := by
  induction fetches generalizing w with
  | zero => exact h.seekWithin_of_lt henough 0
  | succ fetches ih =>
    by_cases hlt : n < trackCount w.pages
    · exact h.seekWithin_of_lt hlt (fetches + 1)
    · have hnone : Position.locate? w.pages n = none :=
        Position.locate?_eq_none_iff.mpr (by omega)
      obtain ⟨w', hfetched, ⟨hfetch, hmore⟩ | ⟨hfetch, hall⟩⟩ := h.fetch hsize hgaps
      · have hstep : Walk.seekWithin (ofPages all) n (fetches + 1) w =
            Walk.seekWithin (ofPages all) n fetches w' := by
          simp only [Walk.seekWithin, hnone, hfetch]
        rw [hstep]
        exact ih hfetched (by omega)
      · have hstep : Walk.seekWithin (ofPages all) n (fetches + 1) w = (.ok false, w') := by
          simp only [Walk.seekWithin, hnone, hfetch]
        rw [hstep, PlainCursor.seek, if_neg (by omega)]
        exact ⟨rfl, hfetched⟩

theorem Follows.skip (h : Follows all w c) (hsize : all.length ≤ 2 ^ 64) (hgaps : ShortGaps all)
    (n : Nat) :
    (Walk.skip (ofPages all) n w).1 = .ok (c.skip (allTracks all) n).1 ∧
      Follows all (Walk.skip (ofPages all) n w).2 (c.skip (allTracks all) n).2 := by
  induction n generalizing w c with
  | zero => exact ⟨rfl, h⟩
  | succ n ih =>
    obtain ⟨hanswer, hfollows⟩ := h.next hsize hgaps
    generalize hw : Walk.next (ofPages all) w = r at hanswer hfollows
    generalize hc : c.next (allTracks all) = r' at hanswer hfollows
    obtain ⟨answer, w'⟩ := r
    obtain ⟨t, c'⟩ := r'
    cases hanswer
    cases t with
    | none =>
      have hstep : Walk.skip (ofPages all) (n + 1) w = (.ok false, w') := by
        simp only [Walk.skip, hw]
      have hplain : c.skip (allTracks all) (n + 1) = (false, c') := by
        simp only [PlainCursor.skip, hc]
      rw [hstep, hplain]
      exact ⟨rfl, hfollows⟩
    | some t =>
      have hstep : Walk.skip (ofPages all) (n + 1) w = Walk.skip (ofPages all) n w' := by
        simp only [Walk.skip, hw]
      have hplain : c.skip (allTracks all) (n + 1) = c'.skip (allTracks all) n := by
        simp only [PlainCursor.skip, hc]
      rw [hstep, hplain]
      exact ih hfollows

theorem Follows.current? (h : Follows all w c) : w.current? = c.current? (allTracks all) := by
  have hspot := h.spot
  unfold Walk.current?
  generalize w.cursor = spot at hspot
  cases hspot with
  | start => rfl
  | before hp => rfl
  | «at» hp => exact hp.track?_eq_getElem?.trans (h.getElem?_eq hp.index_lt)

/-! ## All moves -/

/-- **Every move is answered alike and keeps walk and cursor together.** -/
theorem Follows.perform (h : Follows all w c) (hsize : all.length ≤ 2 ^ 64) (hgaps : ShortGaps all)
    (m : Move) :
    (w.perform (ofPages all) m).1 = .ok (c.perform (allTracks all) m).1 ∧
      Follows all (w.perform (ofPages all) m).2 (c.perform (allTracks all) m).2 := by
  cases m with
  | next =>
    obtain ⟨hanswer, hfollows⟩ := h.next hsize hgaps
    exact ⟨by simp only [Walk.perform, hanswer]; rfl, hfollows⟩
  | previous =>
    obtain ⟨hanswer, hfollows⟩ := h.previous
    exact ⟨by simp only [Walk.perform, hanswer]; rfl, hfollows⟩
  | seek n =>
    obtain ⟨hanswer, hfollows⟩ :=
      h.seekWithin hsize hgaps n (n + 1 - w.knownTracks) (by simp only [knownTracks]; omega)
    exact ⟨by simp only [Walk.perform, Walk.seek, hanswer]; rfl, hfollows⟩
  | skip n =>
    obtain ⟨hanswer, hfollows⟩ := h.skip hsize hgaps n
    exact ⟨by simp only [Walk.perform, hanswer]; rfl, hfollows⟩
  | current => exact ⟨by simp only [Walk.perform, h.current?]; rfl, h⟩

theorem Follows.run (h : Follows all w c) (hsize : all.length ≤ 2 ^ 64) (hgaps : ShortGaps all)
    (moves : List Move) :
    (Walk.run (ofPages all) moves w).1 = (c.replies (allTracks all) moves).map .ok := by
  induction moves generalizing w c with
  | nil => rfl
  | cons m moves ih =>
    obtain ⟨hanswer, hfollows⟩ := h.perform hsize hgaps m
    simp only [Walk.run, PlainCursor.replies, List.map_cons, hanswer, ih hfollows]

/-- **A walk over pages is a cursor over a list.** From its start, a walk over a fixed list of
pages answers any moves in any order like the plain cursor over all tracks, and never fails. The
size is that of a list whose places fit 64 bits, which are what pages are asked for by. -/
theorem run_ofPages (pages : List Page) (hsize : pages.length ≤ 2 ^ 64) (hgaps : ShortGaps pages)
    (moves : List Move) :
    (Walk.run (ofPages pages) moves { source := () }).1 =
      (PlainCursor.start.replies (allTracks pages) moves).map .ok :=
  (follows_start pages).run hsize hgaps moves

/-- Three tracks around the longest gap that is borne. -/
def longestGap : List Page :=
  { tracks := [{ uri := "a" }] } :: List.replicate 63 { tracks := [] } ++
    [{ tracks := [{ uri := "b" }, { uri := "c" }] }]

theorem longestGap_shortGaps : ShortGaps longestGap := by
  intro k hk
  rcases k with - | - | k
  · exact ⟨{ tracks := [{ uri := "a" }] }, by simp [longestGap], List.cons_ne_nil _ _⟩
  · exact ⟨{ tracks := [{ uri := "b" }, { uri := "c" }] }, by simp [longestGap],
      List.cons_ne_nil _ _⟩
  · simp [longestGap] at hk

/-- The gap is crossed forwards and backwards, and what fails at the end leaves the walk where it
was. -/
theorem run_over_longestGap :
    (longestGap.length ≤ 2 ^ 64 ∧ ShortGaps longestGap) ∧
      (Walk.run (ofPages longestGap)
          [.next, .next, .current, .previous, .seek 3, .seek 2, .current, .next, .next, .current,
            .skip (2 ^ 64 - 1), .previous] { source := () }).1 =
        [.track (some { uri := "a" }), .track (some { uri := "b" }), .track (some { uri := "b" }),
          .track (some { uri := "a" }), .moved false, .moved true, .track none,
          .track (some { uri := "c" }), .track none, .track (some { uri := "c" }), .moved false,
          .track (some { uri := "b" })].map .ok := by
  have hsize : longestGap.length ≤ 2 ^ 64 := by decide
  exact ⟨⟨hsize, longestGap_shortGaps⟩,
    (run_ofPages longestGap hsize longestGap_shortGaps _).trans rfl⟩

end RemotePlayback.Paging
