import RemotePlayback.Proofs.Paging.Calls

/-!
A walk over a source that may answer anything.

Pages may arrive late, empty or never, and a call may fail between any two of them. `Onward` and
`Reaches` say what going on and seeking come to, and `Passes` what was passed on the way. Whatever
happens, the walk stands at the start or on a track it knows, and what fails leaves it there, so
that the next attempt goes on from the same place.

The main statement is `walk_keeps_its_place`. Its last part says that a walk that only goes on
yields the delivered tracks one after the other: nothing is lost where a call failed, and nothing
comes twice.
-/

namespace RemotePlayback.Paging

open Source

/-! ## Positions among more pages -/

namespace Position

theorem Holds.track?_append {pages : List Page} {p : Position} (h : p.Holds pages)
    (more : List Page) : p.track? (pages ++ more) = p.track? pages := by
  obtain ⟨page, hpage, -⟩ := h
  obtain ⟨hk, -⟩ := List.getElem?_eq_some_iff.mp hpage
  rw [track?, track?, List.getElem?_append_left hk]

/-- A track that is there can be looked up. -/
theorem Holds.exists_track {pages : List Page} {p : Position} (h : p.Holds pages) :
    ∃ t, p.track? pages = some t := by
  obtain ⟨page, hpage, hlt⟩ := h
  exact ⟨page.tracks[p.track], by simp [track?, hpage, hlt]⟩

/-- The tracks that are not in the pages before are on the last page. -/
theorem locate?_last {front : List Page} {page : Page} {n : Nat} (hle : trackCount front ≤ n)
    (hlt : n < trackCount (front ++ [page])) :
    locate? (front ++ [page]) n = some ⟨front.length, n - trackCount front⟩ := by
  rw [locate?_eq_some_iff]
  have hinside : n - trackCount front < page.tracks.length := by simp at hlt; omega
  refine ⟨⟨page, by simp, hinside⟩, ?_⟩
  simp [index]
  omega

theorem Holds.page_of_last {front : List Page} {page : Page} {p : Position}
    (h : p.Holds (front ++ [page])) (hle : trackCount front ≤ p.index (front ++ [page])) :
    p.page = front.length := by
  have located := locate?_eq_some_iff.mpr ⟨h, rfl⟩
  rw [locate?_last hle h.index_lt] at located
  exact (congrArg Position.page (Option.some.inj located)).symm

end Position

namespace Walk

variable {σ : Type}

/-! ## Where a walk stands -/

/-- **The walk stands at the start, or on a track it knows, or just before one.** -/
def Placed (w : Walk σ) : Prop :=
  match w.cursor with
  | .start => True
  | .at p | .before p => p.Holds w.pages

/-- How many tracks are in front of the one that comes next; also the index of that track. -/
def ahead (w : Walk σ) : Nat := w.candidate.index w.pages

theorem placed_start (source : σ) : Placed { source } := trivial

theorem placed_of_at {w : Walk σ} {p : Position} (cursor : w.cursor = .at p)
    (holds : p.Holds w.pages) : w.Placed := by
  simpa only [Placed, cursor] using holds

theorem placed_of_before {w : Walk σ} {p : Position} (cursor : w.cursor = .before p)
    (holds : p.Holds w.pages) : w.Placed := by
  simpa only [Placed, cursor] using holds

theorem ahead_of_at {w : Walk σ} {p : Position} (cursor : w.cursor = .at p) :
    w.ahead = p.index w.pages + 1 := by
  simp only [ahead, candidate, cursor, Position.index]
  omega

theorem Placed.slot {w : Walk σ} (h : w.Placed) : w.candidate.Slot w.pages := by
  unfold Placed at h
  unfold candidate
  cases cursor : w.cursor with
  | start => exact Position.slot_zero _
  | «at» p =>
    rw [cursor] at h
    exact h.slot_succ
  | before p =>
    rw [cursor] at h
    exact h.slot

theorem Placed.ahead_le {w : Walk σ} (h : w.Placed) : w.ahead ≤ trackCount w.pages := by
  unfold Placed at h
  cases cursor : w.cursor with
  | start => simp [ahead, candidate, cursor]
  | «at» p =>
    rw [cursor] at h
    rw [ahead_of_at cursor]
    exact h.index_lt
  | before p =>
    rw [cursor] at h
    simp only [ahead, candidate, cursor]
    exact Nat.le_of_lt h.index_lt

/-- New pages leave a walk where it stands. -/
theorem Placed.append {w w' : Walk σ} {more : List Page} (h : w.Placed)
    (cursor : w'.cursor = w.cursor) (pages : w'.pages = w.pages ++ more) :
    w'.Placed ∧ w'.ahead = w.ahead := by
  unfold Placed at h
  cases here : w.cursor with
  | start => simp [Placed, ahead, candidate, cursor, here]
  | «at» p =>
    rw [here] at h cursor
    have holds := h.append more
    rw [← pages] at holds
    refine ⟨placed_of_at cursor holds, ?_⟩
    rw [ahead_of_at cursor, ahead_of_at here, pages, h.index_append]
  | before p =>
    rw [here] at h cursor
    have holds := h.append more
    rw [← pages] at holds
    refine ⟨placed_of_before cursor holds, ?_⟩
    simp only [ahead, candidate, cursor, here, pages, h.index_append]

/-- The track that the walk is on stays the same. -/
theorem Placed.current?_append {w w' : Walk σ} {more : List Page} (h : w.Placed)
    (cursor : w'.cursor = w.cursor) (pages : w'.pages = w.pages ++ more) :
    w'.current? = w.current? := by
  unfold Placed at h
  unfold current?
  rw [cursor]
  cases here : w.cursor with
  | start | before p => rfl
  | «at» p =>
    rw [here] at h
    simp only [pages]
    exact h.track?_append more

/-! ## Going on -/

/-- **Where going on leads**: onto the track that came next, which is on the last page if pages had
to be fetched, or nowhere, when every track that is known is in front. -/
inductive Leads (w w' : Walk σ) (fetched : Prop) : Except FetchFailure (Option Track) → Prop where
  | there {p t} (cursor : w'.cursor = .at p) (holds : p.Holds w'.pages)
      (index : p.index w'.pages = w.ahead) (track : p.track? w'.pages = some t)
      (last : fetched → p.page + 1 = w'.pages.length) : Leads w w' fetched (.ok (some t))
  | nowhere {answer} (ne : ∀ t, answer ≠ .ok (some t)) (cursor : w'.cursor = w.cursor)
      (all : trackCount w'.pages = w.ahead) : Leads w w' fetched answer

theorem Leads.of_some {w w' : Walk σ} {fetched : Prop} {t : Track}
    (h : Leads w w' fetched (.ok (some t))) :
    ∃ p, w'.cursor = .at p ∧ p.Holds w'.pages ∧ p.index w'.pages = w.ahead ∧
      p.track? w'.pages = some t ∧ (fetched → p.page + 1 = w'.pages.length) := by
  cases h with
  | there cursor holds index track last => exact ⟨_, cursor, holds, index, track, last⟩
  | nowhere ne => exact absurd rfl (ne t)

theorem Leads.of_failed {w w' : Walk σ} {fetched : Prop}
    {answer : Except FetchFailure (Option Track)} (h : Leads w w' fetched answer)
    (failed : ∀ t, answer ≠ .ok (some t)) :
    w'.cursor = w.cursor ∧ trackCount w'.pages = w.ahead := by
  cases h with
  | @there _ t => exact absurd rfl (failed t)
  | nowhere _ cursor all => exact ⟨cursor, all⟩

/-- **Going on**: pages are asked for only while the next track is not known. -/
structure Onward (w : Walk (σ × List Call)) (calls : List Call)
    (r : Except FetchFailure (Option Track) × Walk (σ × List Call)) : Prop where
  asks : Asks w r.2 calls
  needed : ∀ past c rest, calls = past ++ c :: rest →
    trackCount (w.pages ++ delivered past) ≤ w.ahead
  leads : Leads w r.2 (calls ≠ []) r.1

theorem moveTo_leads {w w' : Walk σ} {fetched : Prop} {p : Position} (holds : p.Holds w'.pages)
    (index : p.index w'.pages = w.ahead) (last : fetched → p.page + 1 = w'.pages.length) :
    Leads w (w'.moveTo p).2 fetched (.ok (w'.moveTo p).1) := by
  obtain ⟨t, track⟩ := holds.exists_track
  have answer : (w'.moveTo p).1 = some t := track
  rw [answer]
  exact .there rfl holds index track last

theorem next_onward (s : Source σ) {w : Walk (σ × List Call)} (placed : w.Placed) :
    ∃ calls, Onward w calls (next s.logged w) := by
  have settled := placed.slot.settle?_eq_locate?
  unfold next
  by_cases known : w.ahead < trackCount w.pages
  · obtain ⟨p, located, holds, index⟩ := Position.exists_locate? known
    simp only [settled.trans located]
    exact ⟨[], asks_nil rfl rfl, by simp, moveTo_leads holds index (absurd rfl)⟩
  · have unknown : w.candidate.settle? w.pages = none :=
      settled.trans (Position.locate?_eq_none_iff.mpr (Nat.le_of_not_lt known))
    have all : w.ahead = trackCount w.pages := by have := placed.ahead_le; omega
    obtain ⟨calls, fetch⟩ := fetchTracks_fetch s w
    have needed := fetch.needed (Nat.le_of_eq all.symm)
    simp only [unknown]
    generalize fetchTracks s.logged w = r at fetch
    obtain ⟨answer, w'⟩ := r
    obtain ⟨asks, cursor, -, brings⟩ := fetch
    obtain ⟨placed', same⟩ := placed.append cursor asks.pages
    refine ⟨calls, ?_⟩
    cases brings with
    | @page front page pages ne count =>
      -- the new tracks begin with the next one
      have reached : trackCount front = w.ahead := count.trans all.symm
      have more : w.ahead < trackCount w'.pages := by
        have := List.length_pos_iff.mpr ne
        rw [show w'.pages = front ++ [page] from pages, trackCount_append]
        simp
        omega
      have located : Position.locate? w'.pages w.ahead =
          some ⟨front.length, w.ahead - trackCount front⟩ := by
        rw [show w'.pages = front ++ [page] from pages] at more ⊢
        exact Position.locate?_last (Nat.le_of_eq reached) more
      have settled' : w'.candidate.settle? w'.pages =
          some ⟨front.length, w.ahead - trackCount front⟩ :=
        placed'.slot.settle?_eq_locate?.trans
          ((congrArg (Position.locate? w'.pages) same).trans located)
      obtain ⟨holds, index⟩ := Position.locate?_eq_some_iff.mp located
      simp only [settled']
      refine ⟨⟨asks.log, asks.pages, asks.due⟩, needed, moveTo_leads holds index fun _ => ?_⟩
      rw [show w'.pages = front ++ [page] from pages]
      simp
    | nothing ne count =>
      have spent : trackCount w'.pages = w.ahead := count.trans all.symm
      rcases answer with e | _ | _
      · exact ⟨asks, needed, .nowhere nofun cursor spent⟩
      · exact ⟨asks, needed, .nowhere nofun cursor spent⟩
      · exact absurd rfl ne

theorem Onward.placed {w : Walk (σ × List Call)} {calls : List Call}
    {r : Except FetchFailure (Option Track) × Walk (σ × List Call)} (h : Onward w calls r)
    (placed : w.Placed) : r.2.Placed := by
  obtain ⟨answer, w'⟩ := r
  cases h.leads with
  | there cursor holds => exact placed_of_at cursor holds
  | nowhere _ cursor => exact (placed.append cursor h.asks.pages).1

/-! ## Going back and looking -/

/-- Going back asks for nothing, and stays on a known track. -/
theorem previous_placed {w : Walk σ} (placed : w.Placed) :
    w.previous.2.Placed ∧ w.previous.2.pages = w.pages ∧ w.previous.2.source = w.source := by
  have back {p : Position} (holds : p.Holds w.pages) :
      ∀ q ∈ p.predecessor? w.pages, q.Holds w.pages := by
    intro q before
    rw [holds.predecessor?_eq_locate?] at before
    split at before
    · cases before
    · exact (Position.locate?_eq_some_iff.mp before).1
  have stay := placed
  unfold Placed at placed
  unfold previous
  cases cursor : w.cursor with
  | start => exact ⟨stay, rfl, rfl⟩
  | «at» p | before p =>
    rw [cursor] at placed
    dsimp only
    cases before : p.predecessor? w.pages with
    | none => exact ⟨stay, rfl, rfl⟩
    | some q => exact ⟨placed_of_at rfl (back placed q before), rfl, rfl⟩

/-! ## Seeking -/

/-- **Where seeking leads**: to just before the track with the index, which is on the last page if
pages had to be fetched, or nowhere. -/
inductive Reaches (w w' : Walk σ) (index : Nat) (fetched : Prop) :
    Except FetchFailure Bool → Prop where
  | there {p} (cursor : w'.cursor = .before p) (holds : p.Holds w'.pages)
      (index_eq : p.index w'.pages = index) (last : fetched → p.page + 1 = w'.pages.length) :
      Reaches w w' index fetched (.ok true)
  | nowhere {answer} (ne : answer ≠ .ok true) (cursor : w'.cursor = w.cursor) :
      Reaches w w' index fetched answer

theorem Reaches.of_true {w w' : Walk σ} {index : Nat} {fetched : Prop}
    (h : Reaches w w' index fetched (.ok true)) :
    ∃ p, w'.cursor = .before p ∧ p.Holds w'.pages ∧ p.index w'.pages = index ∧
      (fetched → p.page + 1 = w'.pages.length) := by
  cases h with
  | there cursor holds there last => exact ⟨_, cursor, holds, there, last⟩
  | nowhere ne => exact absurd rfl ne

theorem Reaches.of_failed {w w' : Walk σ} {index : Nat} {fetched : Prop}
    {answer : Except FetchFailure Bool} (h : Reaches w w' index fetched answer)
    (failed : answer ≠ .ok true) : w'.cursor = w.cursor := by
  cases h with
  | there => exact absurd rfl failed
  | nowhere _ cursor => exact cursor

/-- **Seeking**: pages are asked for only while the track is not known. -/
structure Seeks (w : Walk (σ × List Call)) (index : Nat) (calls : List Call)
    (r : Except FetchFailure Bool × Walk (σ × List Call)) : Prop where
  asks : Asks w r.2 calls
  needed : ∀ past c rest, calls = past ++ c :: rest → trackCount (w.pages ++ delivered past) ≤ index
  reaches : Reaches w r.2 index (calls ≠ []) r.1

/-- Nothing is asked for a track that is known. -/
theorem seeks_known {w : Walk (σ × List Call)} {index : Nat} {p : Position}
    (located : Position.locate? w.pages index = some p) :
    Seeks w index [] (.ok true, { w with cursor := .before p }) := by
  obtain ⟨holds, there⟩ := Position.locate?_eq_some_iff.mp located
  exact ⟨asks_nil rfl rfl, by simp, .there rfl holds there (absurd rfl)⟩

theorem seekWithin_seeks (s : Source σ) (index n : Nat) (w : Walk (σ × List Call)) :
    ∃ calls, Seeks w index calls (seekWithin s.logged index n w) := by
  induction n generalizing w with
  | zero =>
    unfold seekWithin
    cases located : Position.locate? w.pages index with
    | some p => exact ⟨[], seeks_known located⟩
    | none => exact ⟨[], asks_nil rfl rfl, by simp, .nowhere (by simp) rfl⟩
  | succ n ih =>
    unfold seekWithin
    cases located : Position.locate? w.pages index with
    | some p => exact ⟨[], seeks_known located⟩
    | none =>
      have unknown := Position.locate?_eq_none_iff.mp located
      obtain ⟨calls, fetch⟩ := fetchTracks_fetch s w
      dsimp only
      generalize fetchTracks s.logged w = r at fetch
      obtain ⟨answer, w'⟩ := r
      have needed := fetch.needed unknown
      obtain ⟨asks, cursor, -, brings⟩ := fetch
      cases brings with
      | @page front page pages ne same =>
        obtain ⟨more, seeks⟩ := ih w'
        dsimp only
        generalize seekWithin s.logged index n w' = r at seeks
        obtain ⟨answer, w''⟩ := r
        obtain ⟨asks', needed', reaches⟩ := seeks
        refine ⟨calls ++ more, asks.trans asks', forall_split_append needed ?_, ?_⟩
        · intro past c rest split
          have known := needed' past c rest split
          rwa [asks.pages, List.append_assoc, ← delivered_append] at known
        · cases reaches with
          | @there p cursor' holds there last =>
            refine .there cursor' holds there fun _ => ?_
            by_cases again : more = []
            · -- the fetch was the last one, so the track was not known before it
              have pages' : w''.pages = front ++ [page] := by
                rw [asks'.pages, again, delivered_nil, List.append_nil]
                exact pages
              dsimp only at holds there ⊢
              rw [pages'] at holds there ⊢
              rw [holds.page_of_last (by rw [same, there]; exact unknown)]
              simp
            · exact last again
          | nowhere ne' cursor' => exact .nowhere ne' (cursor'.trans cursor)
      | nothing ne same =>
        rcases answer with e | _ | _
        · exact ⟨calls, asks, needed, .nowhere ne cursor⟩
        · exact ⟨calls, asks, needed, .nowhere ne cursor⟩
        · exact absurd rfl ne

theorem seek_seeks (s : Source σ) (index : Nat) (w : Walk (σ × List Call)) :
    ∃ calls, Seeks w index calls (seek s.logged index w) :=
  seekWithin_seeks s index (index + 1 - w.knownTracks) w

theorem Seeks.placed {w : Walk (σ × List Call)} {index : Nat} {calls : List Call}
    {r : Except FetchFailure Bool × Walk (σ × List Call)} (h : Seeks w index calls r)
    (placed : w.Placed) : r.2.Placed := by
  obtain ⟨answer, w'⟩ := r
  cases h.reaches with
  | there cursor holds => exact placed_of_before cursor holds
  | nowhere _ cursor => exact (placed.append cursor h.asks.pages).1

/-! ## Skipping -/

/-- **The tracks that are passed** by going on and on. -/
inductive Passes (s : Source σ) : Walk σ → List Track → Walk σ → Prop where
  | nil {w} : Passes s w [] w
  | cons {w w' w'' t tracks} (step : next s w = (.ok (some t), w'))
      (rest : Passes s w' tracks w'') : Passes s w (t :: tracks) w''

/-- Skipping is going on so many times, or until going on leads nowhere. -/
theorem skip_passes (s : Source σ) (count : Nat) (w : Walk σ) :
    ∃ passed w', Passes s w passed w' ∧
      ((passed.length = count ∧ skip s count w = (.ok true, w')) ∨
        (passed.length < count ∧ (∀ t, (next s w').1 ≠ .ok (some t)) ∧
          (skip s count w).1 ≠ .ok true ∧ (skip s count w).2 = (next s w').2)) := by
  induction count generalizing w with
  | zero => exact ⟨[], w, .nil, .inl ⟨rfl, rfl⟩⟩
  | succ count ih =>
    unfold skip
    cases step : next s w with
    | mk answer w₁ =>
      rcases answer with e | _ | t
      · refine ⟨[], w, .nil, .inr ⟨Nat.succ_pos _, by simp [step], ?_, by rw [step]⟩⟩
        intro skipped
        cases skipped
      · refine ⟨[], w, .nil, .inr ⟨Nat.succ_pos _, by simp [step], ?_, by rw [step]⟩⟩
        intro skipped
        cases skipped
      · obtain ⟨passed, w', passes, rest⟩ := ih w₁
        refine ⟨t :: passed, w', .cons step passes, rest.imp ?_ ?_⟩
        · rintro ⟨rfl, skipped⟩
          exact ⟨rfl, skipped⟩
        · rintro ⟨fewer, stuck⟩
          exact ⟨Nat.succ_lt_succ fewer, stuck⟩

/-- What is passed on the way leaves the walk placed, and on the track passed last. -/
theorem Passes.asks {s : Source σ} {w w' : Walk (σ × List Call)} {tracks : List Track}
    (h : Passes s.logged w tracks w') (placed : w.Placed) :
    (∃ calls, Asks w w' calls) ∧ w'.Placed ∧ (tracks = [] → w' = w) ∧
      (tracks ≠ [] → w'.current? = tracks.getLast?) := by
  induction h with
  | nil => exact ⟨⟨[], asks_nil rfl rfl⟩, placed, fun _ => rfl, absurd rfl⟩
  | @cons w w₁ w₂ t tracks step rest ih =>
    obtain ⟨calls, onward⟩ := next_onward s placed
    rw [step] at onward
    obtain ⟨⟨more, asks⟩, placed', same, last⟩ := ih (onward.placed placed)
    refine ⟨⟨_, onward.asks.trans asks⟩, placed', nofun, fun _ => ?_⟩
    cases tracks with
    | nil =>
      obtain ⟨p, cursor, -, -, track, -⟩ := onward.leads.of_some
      rw [same rfl, current?, show w₁.cursor = .at p from cursor]
      exact track
    | cons t' tracks => exact last nofun

/-! ## All moves -/

/-- Every move leaves the walk placed, and fetches only what is due. -/
theorem perform_asks (s : Source σ) {w : Walk (σ × List Call)} (placed : w.Placed) (m : Move) :
    (∃ calls, Asks w (w.perform s.logged m).2 calls) ∧ (w.perform s.logged m).2.Placed := by
  cases m with
  | next =>
    obtain ⟨calls, onward⟩ := next_onward s placed
    exact ⟨⟨calls, onward.asks⟩, onward.placed placed⟩
  | previous =>
    obtain ⟨placed', pages, source⟩ := previous_placed placed
    exact ⟨⟨[], asks_nil (congrArg Prod.snd source) pages⟩, placed'⟩
  | seek index =>
    obtain ⟨calls, seeks⟩ := seek_seeks s index w
    exact ⟨⟨calls, seeks.asks⟩, seeks.placed placed⟩
  | skip count =>
    obtain ⟨passed, w', passes, stop⟩ := skip_passes s.logged count w
    obtain ⟨⟨calls, asks⟩, placed', -⟩ := passes.asks placed
    rcases stop with ⟨-, done⟩ | ⟨-, -, -, stuck⟩
    · have there : (w.perform s.logged (.skip count)).2 = w' := congrArg Prod.snd done
      rw [there]
      exact ⟨⟨calls, asks⟩, placed'⟩
    · have there : (w.perform s.logged (.skip count)).2 = (next s.logged w').2 := stuck
      obtain ⟨more, onward⟩ := next_onward s placed'
      rw [there]
      exact ⟨⟨_, asks.trans onward.asks⟩, onward.placed placed'⟩
  | current => exact ⟨⟨[], asks_nil rfl rfl⟩, placed⟩

theorem run_asks (s : Source σ) (moves : List Move) {w : Walk (σ × List Call)}
    (placed : w.Placed) :
    (∃ calls, Asks w (run s.logged moves w).2 calls) ∧ (run s.logged moves w).2.Placed := by
  induction moves generalizing w with
  | nil => exact ⟨⟨[], asks_nil rfl rfl⟩, placed⟩
  | cons m moves ih =>
    obtain ⟨⟨calls, asks⟩, placed'⟩ := perform_asks s placed m
    obtain ⟨⟨more, asks'⟩, placed''⟩ := ih placed'
    exact ⟨⟨_, asks.trans asks'⟩, placed''⟩

/-! ## Only going on -/

/-- The track of an answer, if there is one. -/
def yield? : Except FetchFailure Reply → Option Track
  | .ok (.track t) => t
  | _ => none

/-- **The tracks that were yielded**; failures and missing tracks in between are left out. -/
def yielded (replies : List (Except FetchFailure Reply)) : List Track := replies.filterMap yield?

theorem allTracks_take_append {pages : List Page} {n : Nat} (hle : n ≤ trackCount pages)
    (more : List Page) : (allTracks (pages ++ more)).take n = (allTracks pages).take n := by
  rw [allTracks_append, List.take_append_of_le_length (by rwa [length_allTracks])]

/-- One more step onwards adds the track that comes next to those in front, or nothing. -/
theorem Onward.take {w w' : Walk (σ × List Call)} {calls : List Call}
    {answer : Except FetchFailure (Option Track)} (h : Onward w calls (answer, w'))
    (placed : w.Placed) :
    (allTracks w.pages).take w.ahead ++ (yield? (answer.map .track)).toList =
        (allTracks w'.pages).take w'.ahead ∧
      (answer = .ok none → trackCount w'.pages = w'.ahead) := by
  have before := allTracks_take_append placed.ahead_le (delivered calls)
  rw [← show w'.pages = _ from h.asks.pages] at before
  cases h.leads with
  | @there p t cursor holds index track =>
    have cursor : w'.cursor = .at p := cursor
    have holds : p.Holds w'.pages := holds
    have track : p.track? w'.pages = some t := track
    have index : p.index w'.pages = w.ahead := index
    refine ⟨?_, nofun⟩
    rw [holds.track?_eq_getElem?, index] at track
    rw [ahead_of_at cursor, index, List.take_add_one, track, before]
    rfl
  | nowhere ne cursor all =>
    have stays : w'.ahead = w.ahead := (placed.append cursor h.asks.pages).2
    have nothing : yield? (answer.map .track) = none := by
      rcases answer with e | _ | t
      · rfl
      · rfl
      · exact absurd rfl (ne t)
    refine ⟨?_, fun _ => all.trans stays.symm⟩
    rw [nothing, stays, before, Option.toList_none, List.append_nil]

/-- Going on again and again yields the known tracks in their order, as far as they are in front. -/
theorem run_nexts (s : Source σ) (n : Nat) {w : Walk (σ × List Call)} (placed : w.Placed) :
    (allTracks w.pages).take w.ahead ++ yielded (run s.logged (List.replicate n .next) w).1 =
        (allTracks (run s.logged (List.replicate n .next) w).2.pages).take
          (run s.logged (List.replicate n .next) w).2.ahead ∧
      ((run s.logged (List.replicate n .next) w).1.getLast? = some (.ok (.track none)) →
        trackCount (run s.logged (List.replicate n .next) w).2.pages =
          (run s.logged (List.replicate n .next) w).2.ahead) := by
  induction n generalizing w with
  | zero => exact ⟨List.append_nil _, nofun⟩
  | succ n ih =>
    obtain ⟨calls, onward⟩ := next_onward s placed
    have placed' := onward.placed placed
    generalize step : next s.logged w = r at onward placed'
    obtain ⟨answer, w'⟩ := r
    obtain ⟨more, all⟩ := onward.take placed
    obtain ⟨rest, last⟩ := ih placed'
    have run_eq : run s.logged (List.replicate (n + 1) .next) w =
        (answer.map .track :: (run s.logged (List.replicate n .next) w').1,
          (run s.logged (List.replicate n .next) w').2) := by
      simp only [List.replicate_succ, run, perform, step]
    rw [run_eq]
    refine ⟨?_, ?_⟩
    · dsimp only
      rw [← rest, ← more, yielded, yielded, List.append_assoc, List.filterMap_cons]
      cases yield? (answer.map .track) <;> rfl
    · cases n with
      | zero =>
        intro none
        refine all ?_
        rcases answer with e | t
        · cases none
        · cases none
          rfl
      | succ n =>
        dsimp only
        intro none
        refine last ?_
        rw [List.replicate_succ, run] at none ⊢
        exact (List.getLast?_cons_cons ..).symm.trans none

/-! ## The whole walk -/

/-- From the start of a walk, its pages are those that were delivered. -/
theorem run_from_start (s : Source σ) (source : σ) (moves : List Move) :
    (run s.logged moves { source := (source, []) }).2.pages =
        delivered (run s.logged moves { source := (source, []) }).2.calls ∧
      (run s.logged moves { source := (source, []) }).2.Placed := by
  obtain ⟨⟨calls, asks⟩, placed⟩ := run_asks s moves (placed_start (source, []))
  refine ⟨?_, placed⟩
  rw [asks.pages, asks.log]
  rfl

/-- **A walk keeps its place, whatever its source answers.** From its start, after any moves, a walk
stands at the start or at a track of a page that it keeps. Its pages are those that were delivered,
in their order, and no move changes them or does anything but add to them. Going on and seeking
leave it where it is when they fail, and skipping leaves it on the track that it passed last. So
going on and on, through failures and missing pages, yields the delivered tracks in their order, and
has yielded all of them when it says that there is none. A log of the calls changes nothing. -/
theorem walk_keeps_its_place (s : Source σ) (source : σ) (moves : List Move) :
    let r := run s.logged moves { source := (source, []) }
    let w := r.2
    run s moves { source } = (r.1, w.unlogged) ∧ w.Placed ∧ w.pages = delivered w.calls ∧
    (∀ m, ∃ calls, (w.perform s.logged m).2.calls = w.calls ++ calls ∧
      (w.perform s.logged m).2.pages = w.pages ++ delivered calls) ∧
    ((∀ t, (next s.logged w).1 ≠ .ok (some t)) → (next s.logged w).2.cursor = w.cursor) ∧
    (∀ n, (seek s.logged n w).1 ≠ .ok true → (seek s.logged n w).2.cursor = w.cursor) ∧
    (∀ count, (skip s.logged count w).1 ≠ .ok true → ∃ passed w',
      Passes s.logged w passed w' ∧ passed.length < count ∧
      (∀ t, (next s.logged w').1 ≠ .ok (some t)) ∧
      (passed = [] → (skip s.logged count w).2.cursor = w.cursor) ∧
      (passed ≠ [] → (skip s.logged count w).2.current? = passed.getLast?)) ∧
    ∀ n, let r := run s.logged (List.replicate n .next) { source := (source, []) }
      yielded r.1 <+: allTracks (delivered r.2.calls) ∧
      (r.1.getLast? = some (.ok (.track none)) →
        yielded r.1 = allTracks (delivered r.2.calls)) := by
  intro r w
  obtain ⟨pages, placed⟩ := run_from_start s source moves
  refine ⟨run_unlogged s { source := (source, []) } moves, placed, pages, ?_, ?_, ?_, ?_, ?_⟩
  · intro m
    obtain ⟨⟨calls, asks⟩, -⟩ := perform_asks s placed m
    exact ⟨calls, asks.log, asks.pages⟩
  · intro failed
    obtain ⟨calls, onward⟩ := next_onward s placed
    exact (onward.leads.of_failed failed).1
  · intro n failed
    obtain ⟨calls, seeks⟩ := seek_seeks s n w
    exact seeks.reaches.of_failed failed
  · intro count failed
    obtain ⟨passed, w', passes, ⟨-, done⟩ | ⟨fewer, stuck, -, stop⟩⟩ :=
      skip_passes s.logged count w
    · exact absurd (congrArg Prod.fst done) failed
    · obtain ⟨-, placed', same, last⟩ := passes.asks placed
      obtain ⟨calls, onward⟩ := next_onward s placed'
      have cursor := (onward.leads.of_failed stuck).1
      rw [stop]
      refine ⟨passed, w', passes, fewer, stuck, ?_, ?_⟩
      · intro none
        rw [cursor, same none]
      · intro some
        rw [placed'.current?_append cursor onward.asks.pages, last some]
  · intro n
    obtain ⟨pages', placed'⟩ := run_from_start s source (List.replicate n .next)
    obtain ⟨all, last⟩ := run_nexts s n (placed_start (source, []))
    rw [show allTracks ([] : List Page) = [] from rfl, List.take_nil, List.nil_append,
      pages'] at all
    refine ⟨all ▸ List.take_prefix _ _, ?_⟩
    intro none
    rw [all, ← last none, pages', ← length_allTracks, List.take_length]

end Walk

end RemotePlayback.Paging
