import RemotePlayback.Paging.Walk
import RemotePlayback.Proofs.Paging.Position
import RemotePlayback.Proofs.Text.Decimal

/-!
Fetching from a fixed list of pages.

Asking page after page from `Source.ofPages` brings the numbered pages in their order and then
nothing, so the pages of a walk are always the first ones of that list. `Fetched.fetchTracks` says
what a fetch is good for when no gap of empty pages is as long as a fetch: it brings a new track, or
it has brought all pages there are.
-/

namespace RemotePlayback.Paging

/-- Nowhere are 64 pages in a row empty. -/
def ShortGaps (pages : List Page) : Prop :=
  ∀ k, k + 64 ≤ pages.length → ∃ page ∈ (pages.drop k).take 64, page.tracks ≠ []

/-- Pages hold a track only if one of them does. -/
theorem trackCount_pos_of_mem {pages : List Page} {page : Page} (h : page ∈ pages)
    (hne : page.tracks ≠ []) : 0 < trackCount pages := by
  obtain ⟨before, after, rfl⟩ := List.append_of_mem h
  have := List.length_pos_iff.mpr hne
  simp
  omega

/-- A page with tracks makes the count grow, an empty one keeps it. -/
theorem trackCount_take_succ {pages : List Page} {k : Nat} (hk : k < pages.length) :
    trackCount (pages.take (k + 1)) = trackCount (pages.take k) + pages[k].tracks.length := by
  rw [List.take_add_one, List.getElem?_eq_getElem hk, trackCount_append]
  simp

/-- Among 64 pages in a row there is a track. -/
theorem ShortGaps.trackCount_lt {pages : List Page} {k : Nat} (h : ShortGaps pages)
    (hk : k + 64 ≤ pages.length) :
    trackCount (pages.take k) < trackCount (pages.take (k + 64)) := by
  obtain ⟨page, hmem, hne⟩ := h k hk
  have hpos := trackCount_pos_of_mem hmem hne
  rw [List.take_add, trackCount_append]
  omega

namespace Source

/-! ## Numbered pages -/

@[simp] theorem length_numbered (place : Nat) (pages : List Page) :
    (numbered place pages).length = pages.length := by
  fun_induction numbered place pages with
  | case1 => rfl
  | case2 => rfl
  | case3 place page pages _ ih => simp [ih]

/-- Numbering changes tokens only. -/
theorem map_tracks_numbered (place : Nat) (pages : List Page) :
    (numbered place pages).map (·.tracks) = pages.map (·.tracks) := by
  fun_induction numbered place pages with
  | case1 => rfl
  | case2 => rfl
  | case3 place page pages _ ih => simp [ih]

theorem allTracks_take_numbered (place : Nat) (pages : List Page) (k : Nat) :
    allTracks ((numbered place pages).take k) = allTracks (pages.take k) := by
  rw [allTracks, allTracks, List.flatMap_def, List.flatMap_def, List.map_take, List.map_take,
    map_tracks_numbered]

theorem trackCount_take_numbered (place : Nat) (pages : List Page) (k : Nat) :
    trackCount ((numbered place pages).take k) = trackCount (pages.take k) := by
  rw [← length_allTracks, allTracks_take_numbered, length_allTracks]

/-- Every page but the last carries the place of the next one. -/
theorem nextToken_numbered {place k : Nat} {pages : List Page} {page : Page}
    (h : (numbered place pages)[k]? = some page) :
    page.nextToken =
      if k + 1 < pages.length then some (toString (place + (k + 1))) else none := by
  fun_induction numbered place pages generalizing k with
  | case1 => simp at h
  | case2 _ p =>
    cases k with
    | zero => simp at h; simp [← h]
    | succ k => simp at h
  | case3 place p pages hne ih =>
    cases k with
    | zero =>
      have hpos : 0 < pages.length := List.length_pos_iff.mpr fun hnil => hne hnil
      simp at h
      simp [← h, hpos]
    | succ k =>
      rw [ih (by simpa using h), show place + 1 + (k + 1) = place + (k + 1 + 1) by omega]
      simp only [List.length_cons, Nat.add_lt_add_iff_right]

/-- A place that fits 64 bits is found again from its token. -/
theorem answerAt_toString (pages : List Page) {k : Nat} (h : k < 2 ^ 64) :
    answerAt pages (some (toString k)) = .ok pages[k]? := by
  simp only [answerAt, Text.word64?_toString h]

end Source

namespace Walk

open Source

variable {all : List Page} {k : Nat} {w : Walk Unit}

/-! ## Fetching -/

/-- The walk has fetched the first `k` pages of the list. -/
structure Fetched (all : List Page) (k : Nat) (w : Walk Unit) : Prop where
  le : k ≤ all.length
  pages : w.pages = (numbered 0 all).take k

theorem Fetched.trackCount (h : Fetched all k w) :
    trackCount w.pages = trackCount (all.take k) := by
  rw [h.pages, trackCount_take_numbered]

theorem Fetched.continuation?_zero (h : Fetched all 0 w) : w.continuation? = some none := by
  simp [continuation?, h.pages]

theorem Fetched.continuation?_succ (h : Fetched all (k + 1) w) :
    w.continuation? =
      if k + 1 < all.length then some (some (toString (k + 1))) else none := by
  have hk : k < (numbered 0 all).length := by
    rw [length_numbered]
    exact h.le
  have hlast : w.pages.getLast? = some (numbered 0 all)[k] := by
    rw [h.pages, List.getLast?_take, if_neg (by omega), Nat.add_sub_cancel,
      List.getElem?_eq_getElem hk]
    rfl
  have htoken := nextToken_numbered (List.getElem?_eq_getElem hk)
  simp only [continuation?, hlast, htoken, Nat.zero_add]
  split <;> rfl

/-- As long as there is a page left, it is asked for by its place. -/
theorem Fetched.exists_token (h : Fetched all k w) (hk : k < all.length) (hsize : k < 2 ^ 64) :
    ∃ token, w.continuation? = some token ∧
      answerAt (numbered 0 all) token = .ok (numbered 0 all)[k]? := by
  cases k with
  | zero => exact ⟨none, h.continuation?_zero, rfl⟩
  | succ k => exact ⟨some (toString (k + 1)), by rw [h.continuation?_succ, if_pos hk],
      answerAt_toString _ hsize⟩

theorem Fetched.fetchPage_of_lt (h : Fetched all k w) (hk : k < all.length) (hsize : k < 2 ^ 64) :
    fetchPage (ofPages all) w =
      (.ok (some all[k].tracks.length), { w with pages := (numbered 0 all).take (k + 1) }) := by
  obtain ⟨token, htoken, hanswer⟩ := h.exists_token hk hsize
  have hk' : k < (numbered 0 all).length := by simpa using hk
  have htracks : (numbered 0 all)[k].tracks = all[k].tracks := by
    have := congrArg (·[k]?) (map_tracks_numbered 0 all)
    simpa [hk] using this
  have hpages : w.pages ++ [(numbered 0 all)[k]] = (numbered 0 all).take (k + 1) := by
    rw [h.pages, List.take_add_one, List.getElem?_eq_getElem hk']
    rfl
  simp only [fetchPage, htoken, ofPages, hanswer, List.getElem?_eq_getElem hk', htracks, hpages]

theorem Fetched.fetchPage_of_all (h : Fetched all all.length w) :
    fetchPage (ofPages all) w = (.ok none, w) := by
  cases hlen : all.length with
  | zero =>
    rw [hlen] at h
    simp [fetchPage, h.continuation?_zero, ofPages, answerAt, List.length_eq_zero_iff.mp hlen,
      numbered]
  | succ k =>
    rw [hlen] at h
    simp [fetchPage, h.continuation?_succ, hlen]

/-- Fetching ends at the first page with tracks, or behind the last page, or when it has asked
often enough; in the last two cases it brought no track. -/
theorem Fetched.fetchWithin (h : Fetched all k w) (hsize : all.length ≤ 2 ^ 64) (n : Nat) :
    ∃ k', Fetched all k' (fetchWithin (ofPages all) n w).2 ∧
      (fetchWithin (ofPages all) n w).2.cursor = w.cursor ∧ k ≤ k' ∧
      ((fetchWithin (ofPages all) n w).1 = .ok true ∧
          Paging.trackCount (all.take k) < Paging.trackCount (all.take k') ∨
        (fetchWithin (ofPages all) n w).1 = .ok false ∧ (k' = all.length ∨ k' = k + n) ∧
          Paging.trackCount (all.take k') = Paging.trackCount (all.take k)) := by
  induction n generalizing k w with
  | zero => exact ⟨k, h, rfl, Nat.le_refl k, .inr ⟨rfl, .inr rfl, rfl⟩⟩
  | succ n ih =>
    rcases Nat.lt_or_eq_of_le h.le with hk | rfl
    · have hpage := h.fetchPage_of_lt hk (by omega)
      have hnext : Fetched all (k + 1) { w with pages := (numbered 0 all).take (k + 1) } :=
        ⟨hk, rfl⟩
      have hcount := trackCount_take_succ hk
      cases htracks : all[k].tracks.length with
      | zero =>
        -- an empty page: the rest of the fetch starts behind it
        have hstep : Walk.fetchWithin (ofPages all) (n + 1) w =
            Walk.fetchWithin (ofPages all) n { w with pages := (numbered 0 all).take (k + 1) } := by
          simp only [Walk.fetchWithin, hpage, htracks]
        obtain ⟨k', hf, hcursor, hle, hend⟩ := ih hnext
        rw [hcount, htracks, Nat.add_zero] at hend
        rw [hstep]
        refine ⟨k', hf, hcursor, by omega, hend.imp_right ?_⟩
        rintro ⟨hfalse, hwhere, hsame⟩
        exact ⟨hfalse, hwhere.imp_right (by omega), hsame⟩
      | succ t =>
        have hstep : Walk.fetchWithin (ofPages all) (n + 1) w =
            (.ok true, { w with pages := (numbered 0 all).take (k + 1) }) := by
          simp only [Walk.fetchWithin, hpage, htracks]
        rw [hstep]
        exact ⟨k + 1, hnext, rfl, Nat.le_succ k, .inl ⟨rfl, by omega⟩⟩
    · have hstep : Walk.fetchWithin (ofPages all) (n + 1) w = (.ok false, w) := by
        simp only [Walk.fetchWithin, h.fetchPage_of_all]
      rw [hstep]
      exact ⟨all.length, h, rfl, Nat.le_refl _, .inr ⟨rfl, .inl rfl, rfl⟩⟩

/-- **What a fetch is good for**: a new track, or the certainty that there is none. -/
theorem Fetched.fetchTracks (h : Fetched all k w) (hsize : all.length ≤ 2 ^ 64)
    (hgaps : ShortGaps all) :
    ∃ k', Fetched all k' (fetchTracks (ofPages all) w).2 ∧
      (fetchTracks (ofPages all) w).2.cursor = w.cursor ∧ k ≤ k' ∧
      ((fetchTracks (ofPages all) w).1 = .ok true ∧
          Paging.trackCount (all.take k) < Paging.trackCount (all.take k') ∨
        (fetchTracks (ofPages all) w).1 = .ok false ∧
          Paging.trackCount (all.take k) = Paging.trackCount all) := by
  obtain ⟨k', hf, hcursor, hle, hend⟩ := h.fetchWithin hsize maxEmptyPages
  refine ⟨k', hf, hcursor, hle, hend.imp_right ?_⟩
  rintro ⟨hfalse, hwhere, hsame⟩
  refine ⟨hfalse, ?_⟩
  rcases hwhere with rfl | rfl
  · rw [← hsame, List.take_length]
  · -- so many empty pages in a row would be a long gap
    have := hgaps.trackCount_lt hf.le
    rw [show maxEmptyPages = 64 from rfl] at hsame
    omega

end Walk

end RemotePlayback.Paging
