import RemotePlayback.Paging.Walk
import RemotePlayback.Proofs.Paging.Position

/-!
What a walk asks its source for.

A logged source writes down every call, the token it was asked with and its answer. A walk over it
goes the same way as a walk over the bare source (`run_unlogged`), and the log tells which pages
were delivered and when.

`Asks` says what fetching leaves behind, whatever the source answers: the pages that were delivered
are put behind the known ones, in their order, and every call was due, which means that it carried
the token of the page delivered last. `fetchTracks_fetch` adds what a fetch is good for: it brings
a page with tracks behind empty ones, or no track at all.
-/

namespace RemotePlayback.Paging

/-! ## Calls -/

/-- A call of a source. -/
structure Call where
  token : Option String
  answer : Answer

/-- The page that a call delivers. -/
def Call.page? (c : Call) : Option Page :=
  match c.answer with
  | .ok page => page
  | .error _ => none

/-- **The pages that calls delivered**, in their order. -/
def delivered (calls : List Call) : List Page := calls.filterMap Call.page?

@[simp] theorem delivered_nil : delivered [] = [] := rfl

@[simp] theorem delivered_append (calls more : List Call) :
    delivered (calls ++ more) = delivered calls ++ delivered more := List.filterMap_append

theorem delivered_singleton (c : Call) : delivered [c] = c.page?.toList := by
  cases h : c.page? <;> simp [delivered, h]

/-- **The token to ask with** behind some pages: none before the first page, and the token of the
last page behind it. Nothing is asked behind a page without a token. -/
def Due (pages : List Page) (token : Option String) : Prop :=
  match pages.getLast? with
  | none => token = none
  | some page => page.nextToken = token ∧ token ≠ none

/-- A source that writes down what it is asked and what it answers. -/
def Source.logged {σ : Type} (s : Source σ) : Source (σ × List Call) where
  fetch token st :=
    let r := s.fetch token st.1
    (r.1, (r.2, st.2 ++ [⟨token, r.1⟩]))

/-- What holds of every element of two lists, given those in front of it, holds of the elements of
both together. -/
theorem forall_split_append {α : Type} {p : List α → α → Prop} {a b : List α}
    (first : ∀ past x rest, a = past ++ x :: rest → p past x)
    (second : ∀ past x rest, b = past ++ x :: rest → p (a ++ past) x) :
    ∀ past x rest, a ++ b = past ++ x :: rest → p past x := by
  intro past x rest split
  rcases List.append_eq_append_iff.mp split with ⟨more, rfl, tail⟩ | ⟨more, rfl, tail⟩
  · exact second more x rest tail
  · cases more with
    | nil => simpa using second [] x rest tail.symm
    | cons y more =>
      obtain ⟨rfl, -⟩ := List.cons.inj tail
      exact first past x more rfl

namespace Walk

variable {σ : Type}

theorem continuation?_eq_some_iff {w : Walk σ} {token : Option String} :
    w.continuation? = some token ↔ Due w.pages token := by
  unfold continuation? Due
  cases w.pages.getLast? with
  | none => simp [eq_comm]
  | some page =>
    cases h : page.nextToken with
    | none => simp [h, eq_comm]
    | some t =>
      simp only [h, Option.map_some, Option.some.injEq]
      exact ⟨fun eq => ⟨eq, eq ▸ nofun⟩, And.left⟩

/-! ## The log makes no difference -/

/-- The calls that were made on a walk over a logged source. -/
def calls (w : Walk (σ × List Call)) : List Call := w.source.2

/-- The walk over the bare source. -/
def unlogged (w : Walk (σ × List Call)) : Walk σ :=
  { source := w.source.1, pages := w.pages, cursor := w.cursor }

section Unlogged

variable (s : Source σ) (w : Walk (σ × List Call))

theorem fetchPage_unlogged :
    fetchPage s w.unlogged = ((fetchPage s.logged w).1, (fetchPage s.logged w).2.unlogged) := by
  have same : w.unlogged.continuation? = w.continuation? := rfl
  unfold fetchPage
  rw [same]
  cases w.continuation? with
  | none => rfl
  | some token =>
    simp only [Source.logged, unlogged]
    rcases s.fetch token w.source.1 with ⟨_ | _ | _, _⟩ <;> rfl

theorem fetchWithin_unlogged (n : Nat) :
    fetchWithin s n w.unlogged =
      ((fetchWithin s.logged n w).1, (fetchWithin s.logged n w).2.unlogged) := by
  induction n generalizing w with
  | zero => rfl
  | succ n ih =>
    simp only [fetchWithin, fetchPage_unlogged]
    rcases fetchPage s.logged w with ⟨_ | _ | _ | _, w'⟩
    · rfl
    · rfl
    · exact ih w'
    · rfl

theorem next_unlogged :
    next s w.unlogged = ((next s.logged w).1, (next s.logged w).2.unlogged) := by
  have here (w : Walk (σ × List Call)) :
      w.unlogged.candidate.settle? w.unlogged.pages = w.candidate.settle? w.pages := rfl
  unfold next fetchTracks
  rw [here, fetchWithin_unlogged]
  cases w.candidate.settle? w.pages with
  | some p => rfl
  | none =>
    rcases fetchWithin s.logged maxEmptyPages w with ⟨_ | _ | _, w'⟩
    · rfl
    · rfl
    · simp only [here]
      cases w'.candidate.settle? w'.pages <;> rfl

theorem seekWithin_unlogged (index n : Nat) :
    seekWithin s index n w.unlogged =
      ((seekWithin s.logged index n w).1, (seekWithin s.logged index n w).2.unlogged) := by
  have here (w : Walk (σ × List Call)) :
      Position.locate? w.unlogged.pages index = Position.locate? w.pages index := rfl
  induction n generalizing w with
  | zero =>
    unfold seekWithin
    rw [here]
    cases Position.locate? w.pages index <;> rfl
  | succ n ih =>
    unfold seekWithin fetchTracks
    rw [here]
    cases Position.locate? w.pages index with
    | some p => rfl
    | none =>
      simp only [fetchWithin_unlogged]
      rcases fetchWithin s.logged maxEmptyPages w with ⟨_ | _ | _, w'⟩
      · rfl
      · rfl
      · exact ih w'

theorem skip_unlogged (count : Nat) :
    skip s count w.unlogged =
      ((skip s.logged count w).1, (skip s.logged count w).2.unlogged) := by
  induction count generalizing w with
  | zero => rfl
  | succ count ih =>
    simp only [skip, next_unlogged]
    rcases next s.logged w with ⟨_ | _ | _, w'⟩
    · rfl
    · rfl
    · exact ih w'

theorem previous_unlogged :
    w.unlogged.previous = (w.previous.1, w.previous.2.unlogged) := by
  obtain ⟨⟨source, log⟩, pages, cursor⟩ := w
  cases cursor with
  | start => rfl
  | «at» p | before p =>
    simp only [previous, unlogged]
    cases p.predecessor? pages <;> rfl

theorem perform_unlogged (m : Move) :
    w.unlogged.perform s m = ((w.perform s.logged m).1, (w.perform s.logged m).2.unlogged) := by
  cases m with
  | next => simp only [perform, next_unlogged]
  | previous => simp only [perform, previous_unlogged]
  | seek index => simp only [perform, seek, seekWithin_unlogged]; rfl
  | skip count => simp only [perform, skip_unlogged]
  | current => rfl

/-- **Logging changes nothing** but the log. -/
theorem run_unlogged (moves : List Move) :
    run s moves w.unlogged = ((run s.logged moves w).1, (run s.logged moves w).2.unlogged) := by
  induction moves generalizing w with
  | nil => rfl
  | cons m moves ih => simp only [run, perform_unlogged, ih]

end Unlogged

/-! ## Asking -/

/-- **What fetching leaves behind**: the calls in the log, and the pages that they delivered. Every
call was due when it was made. -/
structure Asks (w w' : Walk (σ × List Call)) (calls : List Call) : Prop where
  log : w'.calls = w.calls ++ calls
  pages : w'.pages = w.pages ++ delivered calls
  due : ∀ past c rest, calls = past ++ c :: rest → Due (w.pages ++ delivered past) c.token

theorem asks_nil {w w' : Walk (σ × List Call)} (log : w'.calls = w.calls)
    (pages : w'.pages = w.pages) : Asks w w' [] := by
  refine ⟨by simp [log], by simp [pages], ?_⟩
  intro past c rest split
  simp at split

theorem asks_one {w w' : Walk (σ × List Call)} {c : Call} (due : Due w.pages c.token)
    (log : w'.calls = w.calls ++ [c]) (pages : w'.pages = w.pages ++ c.page?.toList) :
    Asks w w' [c] := by
  refine ⟨log, by rw [pages, delivered_singleton], ?_⟩
  intro past x rest split
  rw [List.singleton_eq_append_iff] at split
  rcases split with ⟨rfl, split⟩ | ⟨-, split⟩
  · obtain ⟨rfl, -⟩ := List.cons.inj split
    simpa using due
  · simp at split

theorem Asks.trans {w w' w'' : Walk (σ × List Call)} {first second : List Call}
    (h : Asks w w' first) (h' : Asks w' w'' second) : Asks w w'' (first ++ second) := by
  refine ⟨by rw [h'.log, h.log, List.append_assoc],
    by rw [h'.pages, h.pages, delivered_append, List.append_assoc], ?_⟩
  apply forall_split_append h.due
  intro past c rest split
  have due := h'.due past c rest split
  rwa [h.pages, List.append_assoc, ← delivered_append] at due

/-- **What asking for a page can come to**: no call behind the last page, or one call, which brings
no page, fails, or brings a page. -/
inductive PageAsked (w : Walk (σ × List Call)) :
    Except FetchFailure (Option Nat) × Walk (σ × List Call) → Prop where
  | last : PageAsked w (.ok none, w)
  | absent {c w'} (asks : Asks w w' [c]) (cursor : w'.cursor = w.cursor) (page : c.page? = none) :
      PageAsked w (.ok none, w')
  | failed {c w' e} (asks : Asks w w' [c]) (cursor : w'.cursor = w.cursor) (page : c.page? = none) :
      PageAsked w (.error e, w')
  | arrived {c w' page} (asks : Asks w w' [c]) (cursor : w'.cursor = w.cursor)
      (delivers : c.page? = some page) : PageAsked w (.ok (some page.tracks.length), w')

theorem fetchPage_asked (s : Source σ) (w : Walk (σ × List Call)) :
    PageAsked w (fetchPage s.logged w) := by
  unfold fetchPage
  cases due : w.continuation? with
  | none => exact .last
  | some token =>
    have due := continuation?_eq_some_iff.mp due
    simp only [Source.logged]
    rcases s.fetch token w.source.1 with ⟨_ | _ | page, source⟩
    · exact .failed (asks_one due rfl (List.append_nil _).symm) rfl rfl
    · exact .absent (asks_one due rfl (List.append_nil _).symm) rfl rfl
    · exact .arrived (asks_one (c := ⟨token, .ok (some page)⟩) due rfl rfl) rfl rfl

/-- What a fetch is good for: behind empty pages it brings one with tracks, or it brings no track.
-/
inductive Brings (known : Nat) (pages : List Page) : Except FetchFailure Bool → Prop where
  | page {front page} (eq : pages = front ++ [page]) (ne : page.tracks ≠ [])
      (same : trackCount front = known) : Brings known pages (.ok true)
  | nothing {answer} (ne : answer ≠ .ok true) (same : trackCount pages = known) :
      Brings known pages answer

/-- **A fetch**: it stays where it is, and it goes on asking only while there is no new track. -/
structure Fetch (w : Walk (σ × List Call)) (calls : List Call)
    (r : Except FetchFailure Bool × Walk (σ × List Call)) : Prop where
  asks : Asks w r.2 calls
  cursor : r.2.cursor = w.cursor
  idle : ∀ past c rest, calls = past ++ c :: rest → trackCount (delivered past) = 0
  brings : Brings (trackCount w.pages) r.2.pages r.1

/-- There is nothing in front of a single call. -/
theorem idle_singleton (c : Call) :
    ∀ past x rest, [c] = past ++ x :: rest → trackCount (delivered past) = 0 := by
  intro past x rest split
  obtain ⟨rfl, -⟩ | ⟨-, nothing⟩ := List.append_eq_singleton_iff.mp split.symm
  · rfl
  · cases nothing

theorem fetch_ended (w : Walk (σ × List Call)) : Fetch w [] (.ok false, w) :=
  ⟨asks_nil rfl rfl, rfl, by simp, .nothing nofun rfl⟩

theorem fetch_missing {w w' : Walk (σ × List Call)} {c : Call} {answer : Except FetchFailure Bool}
    (asks : Asks w w' [c]) (cursor : w'.cursor = w.cursor) (page : c.page? = none)
    (ne : answer ≠ .ok true) : Fetch w [c] (answer, w') := by
  refine ⟨asks, cursor, idle_singleton c, .nothing ne ?_⟩
  have pages := asks.pages
  rw [delivered_singleton, page, Option.toList_none, List.append_nil] at pages
  rw [pages]

theorem fetchWithin_fetch (s : Source σ) (n : Nat) (w : Walk (σ × List Call)) :
    ∃ calls, Fetch w calls (fetchWithin s.logged n w) := by
  induction n generalizing w with
  | zero => exact ⟨[], fetch_ended w⟩
  | succ n ih =>
    have asked := fetchPage_asked s w
    unfold fetchWithin
    generalize fetchPage s.logged w = r at asked
    cases asked with
    | last => exact ⟨[], fetch_ended w⟩
    | absent asks cursor page => exact ⟨_, fetch_missing asks cursor page nofun⟩
    | failed asks cursor page => exact ⟨_, fetch_missing asks cursor page nofun⟩
    | @arrived c w' page asks cursor delivers =>
      have pages := asks.pages
      rw [delivered_singleton, delivers, Option.toList_some] at pages
      cases count : page.tracks.length with
      | zero =>
        -- an empty page: the rest of the fetch starts behind it
        obtain ⟨calls, fetch⟩ := ih w'
        have same : trackCount w'.pages = trackCount w.pages := by simp [pages, count]
        have empty : trackCount (delivered [c]) = 0 := by
          simp [delivered_singleton, delivers, count]
        refine ⟨[c] ++ calls, asks.trans fetch.asks, fetch.cursor.trans cursor, ?_,
          same ▸ fetch.brings⟩
        apply forall_split_append (idle_singleton c)
        intro past x rest split
        rw [delivered_append, trackCount_append, empty, fetch.idle past x rest split]
      | succ t =>
        have ne : page.tracks ≠ [] := by
          intro nil
          simp [nil] at count
        exact ⟨[c], asks, cursor, idle_singleton c, .page pages ne rfl⟩

/-- While a fetch goes on asking, no more tracks are known than before it. -/
theorem Fetch.needed {w : Walk (σ × List Call)} {calls : List Call} {index : Nat}
    {r : Except FetchFailure Bool × Walk (σ × List Call)} (h : Fetch w calls r)
    (unknown : trackCount w.pages ≤ index) : ∀ past c rest, calls = past ++ c :: rest →
      trackCount (w.pages ++ delivered past) ≤ index := by
  intro past c rest split
  rw [trackCount_append, h.idle past c rest split]
  exact unknown

theorem fetchTracks_fetch (s : Source σ) (w : Walk (σ × List Call)) :
    ∃ calls, Fetch w calls (fetchTracks s.logged w) :=
  fetchWithin_fetch s maxEmptyPages w

end Walk

end RemotePlayback.Paging
