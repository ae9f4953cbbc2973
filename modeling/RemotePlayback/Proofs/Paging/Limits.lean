import RemotePlayback.Proofs.Paging.AnySource

/-!
How often a walk asks its source.

Going on and seeking look for a track, and fetch and look again for as long as it is not there.
`Looks` is this loop without a limit of any kind. It ends whatever the source answers, since each
fetch that lets it go on brings at least one track, and how many tracks are missing is known from
the start; so the loop is what going on and seeking do (`looks_next_iff`, `looks_seek_iff`), and the
missing tracks bound the calls that it makes (`Looks.calls_le`).

A step that met nothing but empty pages has lost nothing: the pages are kept, and whatever is asked
for later comes from behind them (`Resumes`).
-/

namespace RemotePlayback.Paging

open Source

/-- A call that brought an empty page. -/
def Call.IsEmpty (c : Call) : Prop := ∃ page, c.page? = some page ∧ page.tracks = []

namespace Walk

variable {σ β : Type}

/-! ## The loop -/

/-- **Looking until it is there**: what is not there is looked for again after each fetch that
brings tracks, until a fetch brings none or fails. -/
inductive Looks (s : Source σ) (look : Walk σ → Option (β × Walk σ)) (absent : β) :
    Walk σ → Except FetchFailure β × Walk σ → Prop where
  | there {w b w'} (found : look w = some (b, w')) : Looks s look absent w (.ok b, w')
  | ended {w w'} (missing : look w = none) (fetch : fetchTracks s w = (.ok false, w')) :
      Looks s look absent w (.ok absent, w')
  | failed {w w' e} (missing : look w = none) (fetch : fetchTracks s w = (.error e, w')) :
      Looks s look absent w (.error e, w')
  | again {w w' r} (missing : look w = none) (fetch : fetchTracks s w = (.ok true, w'))
      (rest : Looks s look absent w' r) : Looks s look absent w r

/-- A step onto the next track, if it is known. -/
def stepOn? (w : Walk σ) : Option (Option Track × Walk σ) :=
  (w.candidate.settle? w.pages).map w.moveTo

/-- A step to just before the track with an index, if it is known. -/
def stepTo? (index : Nat) (w : Walk σ) : Option (Bool × Walk σ) :=
  (Position.locate? w.pages index).map fun p => (true, { w with cursor := .before p })

section Loop

variable {s : Source σ} {look : Walk σ → Option (β × Walk σ)} {absent : β} {w w' : Walk σ}
  {r r' : Except FetchFailure β × Walk σ}

/-- **The loop comes to one end.** -/
theorem Looks.unique (h : Looks s look absent w r) (h' : Looks s look absent w r') : r = r' := by
  induction h with
  | there found =>
    cases h' with
    | there found' =>
      cases found.symm.trans found'
      rfl
    | ended missing | failed missing | again missing => cases found.symm.trans missing
  | ended missing fetch =>
    cases h' with
    | there found => cases found.symm.trans missing
    | ended _ fetch' =>
      cases fetch.symm.trans fetch'
      rfl
    | failed _ fetch' | again _ fetch' => cases fetch.symm.trans fetch'
  | failed missing fetch =>
    cases h' with
    | there found => cases found.symm.trans missing
    | failed _ fetch' =>
      cases fetch.symm.trans fetch'
      rfl
    | ended _ fetch' | again _ fetch' => cases fetch.symm.trans fetch'
  | again missing fetch rest ih =>
    cases h' with
    | there found => cases found.symm.trans missing
    | ended _ fetch' | failed _ fetch' => cases fetch.symm.trans fetch'
    | again _ fetch' rest' =>
      cases fetch.symm.trans fetch'
      exact ih rest'

/-- **A walk with more pages**, which stands where it stood. -/
structure Grows (w w' : Walk σ) : Prop where
  cursor : w'.cursor = w.cursor
  pages : w.pages <+: w'.pages

theorem Grows.refl (w : Walk σ) : Grows w w := ⟨rfl, List.prefix_rfl⟩

theorem Grows.trans {w'' : Walk σ} (h : Grows w w') (h' : Grows w' w'') : Grows w w'' :=
  ⟨h'.cursor.trans h.cursor, h.pages.trans h'.pages⟩

theorem Grows.placed (h : Grows w w') (placed : w.Placed) : w'.Placed ∧ w'.ahead = w.ahead := by
  obtain ⟨more, pages⟩ := h.pages
  exact placed.append h.cursor pages.symm

theorem Brings.lt {known : Nat} {pages : List Page} (h : Brings known pages (.ok true)) :
    known < trackCount pages := by
  cases h with
  | page pages some count =>
    rw [pages, trackCount_append, count]
    exact Nat.lt_add_of_pos_right (Nat.add_pos_left (List.length_pos_iff.mpr some) _)
  | nothing other => exact (other rfl).elim

/-- A fetch that succeeds brings a track. -/
theorem fetchTracks_brings (fetch : fetchTracks s w = (.ok true, w')) :
    Grows w w' ∧ trackCount w.pages < trackCount w'.pages := by
  -- the same fetch with a log
  let logging : Walk (σ × List Call) :=
    { source := (w.source, []), pages := w.pages, cursor := w.cursor }
  obtain ⟨calls, asks, cursor, -, brings⟩ := fetchTracks_fetch s logging
  have same : fetchTracks s w = _ := fetchWithin_unlogged s logging maxEmptyPages
  rw [fetch] at same
  obtain ⟨answer, rfl⟩ := Prod.mk.inj same
  rw [← show _ = (fetchTracks s.logged logging).1 from answer] at brings
  exact ⟨⟨cursor, asks.pages ▸ List.prefix_append _ _⟩, brings.lt⟩

end Loop

/-! ## Going on and seeking -/

section Steps

variable {s : Source σ} {w w' : Walk σ}

/-- The next track is there as soon as there are more tracks than those in front of it. -/
theorem stepOn?_ne_none (placed : w.Placed) (grows : Grows w w')
    (enough : w.ahead + 1 ≤ trackCount w'.pages) : stepOn? w' ≠ none := by
  obtain ⟨placed', same⟩ := grows.placed placed
  have known : w'.ahead < trackCount w'.pages := by omega
  obtain ⟨p, located, -⟩ := Position.exists_locate? known
  rw [stepOn?, placed'.slot.settle?_eq_locate?]
  simp [show w'.candidate.index w'.pages = w'.ahead from rfl, located]

theorem stepTo?_ne_none {index : Nat} (enough : index + 1 ≤ trackCount w.pages) :
    stepTo? index w ≠ none := by
  obtain ⟨p, located, -⟩ := Position.exists_locate? enough
  simp [stepTo?, located]

/-- **Going on is the loop that looks for the next track.** -/
theorem looks_next_iff (placed : w.Placed) {r : Except FetchFailure (Option Track) × Walk σ} :
    Looks s stepOn? none w r ↔ r = next s w := by
  have reached : Looks s stepOn? none w (next s w) := by
    unfold next
    cases settled : w.candidate.settle? w.pages with
    | some p => exact .there (by simp [stepOn?, settled])
    | none =>
      have missing : stepOn? w = none := by simp [stepOn?, settled]
      rcases fetch : fetchTracks s w with ⟨e | _ | _, w'⟩
      · exact .failed missing fetch
      · exact .ended missing fetch
      · refine .again missing fetch ?_
        obtain ⟨grows, more⟩ := fetchTracks_brings fetch
        have found := stepOn?_ne_none placed grows (Nat.lt_of_le_of_lt placed.ahead_le more)
        dsimp only
        cases settled' : w'.candidate.settle? w'.pages with
        | none => simp [stepOn?, settled'] at found
        | some p => exact .there (by simp [stepOn?, settled'])
  exact ⟨fun h => h.unique reached, fun same => same ▸ reached⟩

theorem seekWithin_looks {index n : Nat} (enough : index + 1 - trackCount w.pages ≤ n) :
    Looks s (stepTo? index) false w (seekWithin s index n w) := by
  induction n generalizing w with
  | zero =>
    have known : index < trackCount w.pages := by omega
    obtain ⟨p, located, -⟩ := Position.exists_locate? known
    unfold seekWithin
    rw [located]
    exact .there (by simp [stepTo?, located])
  | succ n ih =>
    unfold seekWithin
    cases located : Position.locate? w.pages index with
    | some p => exact .there (by simp [stepTo?, located])
    | none =>
      have missing : stepTo? index w = none := by simp [stepTo?, located]
      dsimp only
      rcases fetch : fetchTracks s w with ⟨e | _ | _, w'⟩
      · exact .failed missing fetch
      · exact .ended missing fetch
      · obtain ⟨-, more⟩ := fetchTracks_brings fetch
        exact .again missing fetch (ih (by omega))

/-- **Seeking is the loop that looks for the track with the index.** -/
theorem looks_seek_iff {index : Nat} {r : Except FetchFailure Bool × Walk σ} :
    Looks s (stepTo? index) false w r ↔ r = seek s index w := by
  have reached : Looks s (stepTo? index) false w (seek s index w) :=
    seekWithin_looks (Nat.le_refl _)
  exact ⟨fun h => h.unique reached, fun same => same ▸ reached⟩

end Steps

/-! ## How many calls -/

section Calls

variable {s : Source σ} {w w' : Walk (σ × List Call)}

theorem fetchPage_calls_le (s : Source σ) (w : Walk (σ × List Call)) :
    (fetchPage s.logged w).2.calls.length ≤ w.calls.length + 1 := by
  have asked := fetchPage_asked s w
  generalize fetchPage s.logged w = r at asked
  cases asked with
  | last => exact Nat.le_succ _
  | absent asks | failed asks | arrived asks => simp [asks.log]

/-- A fetch asks for so many pages at most. -/
theorem fetchWithin_calls_le (s : Source σ) (n : Nat) (w : Walk (σ × List Call)) :
    (fetchWithin s.logged n w).2.calls.length ≤ w.calls.length + n := by
  induction n generalizing w with
  | zero => exact Nat.le_refl _
  | succ n ih =>
    have page := fetchPage_calls_le s w
    unfold fetchWithin
    generalize fetchPage s.logged w = r at page
    obtain ⟨_ | _ | _ | _, w'⟩ := r
    · exact Nat.le_trans page (Nat.add_le_add_left (Nat.succ_pos n) _)
    · exact Nat.le_trans page (Nat.add_le_add_left (Nat.succ_pos n) _)
    · refine Nat.le_trans (ih w') ?_
      dsimp only at page
      omega
    · exact Nat.le_trans page (Nat.add_le_add_left (Nat.succ_pos n) _)

theorem fetchTracks_calls_le {answer : Except FetchFailure Bool}
    (fetch : fetchTracks s.logged w = (answer, w')) :
    w'.calls.length ≤ w.calls.length + 64 := by
  have calls : (fetchTracks s.logged w).2.calls.length ≤ w.calls.length + 64 :=
    fetchWithin_calls_le s 64 w
  rwa [fetch] at calls

/-- **What is missing bounds the calls of the loop**: 64 for each track, if what is looked for is
there as soon as enough tracks are known. Looking itself makes no calls. -/
theorem Looks.calls_le {look : Walk (σ × List Call) → Option (β × Walk (σ × List Call))}
    {absent : β} {r : Except FetchFailure β × Walk (σ × List Call)}
    (h : Looks s.logged look absent w r) {enough : Nat}
    (finds : ∀ w', Grows w w' → enough ≤ trackCount w'.pages → look w' ≠ none)
    (quiet : ∀ w' b w'', look w' = some (b, w'') → w''.calls = w'.calls) :
    r.2.calls.length ≤ w.calls.length + 64 * (enough - trackCount w.pages) := by
  have missing_lt {w : Walk (σ × List Call)} (missing : look w = none)
      (finds : ∀ w', Grows w w' → enough ≤ trackCount w'.pages → look w' ≠ none) :
      trackCount w.pages < enough :=
    Nat.lt_of_not_le fun known => finds w (Grows.refl w) known missing
  induction h with
  | there found => exact quiet _ _ _ found ▸ Nat.le_add_right _ _
  | ended missing fetch | failed missing fetch =>
    have less := missing_lt missing finds
    exact Nat.le_trans (fetchTracks_calls_le fetch) (by omega)
  | again missing fetch rest ih =>
    have less := missing_lt missing finds
    obtain ⟨grows, more⟩ := fetchTracks_brings fetch
    have calls := fetchTracks_calls_le fetch
    exact Nat.le_trans (ih fun w'' grows' => finds w'' (grows.trans grows')) (by omega)

theorem next_calls_le (s : Source σ) (placed : w.Placed) :
    (next s.logged w).2.calls.length ≤ w.calls.length + 64 := by
  have loop : Looks s.logged stepOn? none w (next s.logged w) := (looks_next_iff placed).mpr rfl
  have calls := loop.calls_le (fun w' => stepOn?_ne_none placed) fun w' b w'' found => by
    obtain ⟨p, -, stepped⟩ := Option.map_eq_some_iff.mp found
    cases stepped
    rfl
  have ahead := placed.ahead_le
  omega

theorem seek_calls_le (s : Source σ) (index : Nat) (w : Walk (σ × List Call)) :
    (seek s.logged index w).2.calls.length ≤
      w.calls.length + 64 * (index + 1 - w.knownTracks) := by
  have loop : Looks s.logged (stepTo? index) false w (seek s.logged index w) :=
    looks_seek_iff.mpr rfl
  refine loop.calls_le (fun w' _ => stepTo?_ne_none) ?_
  intro w' b w'' found
  obtain ⟨p, -, stepped⟩ := Option.map_eq_some_iff.mp found
  cases stepped
  rfl

theorem skip_calls_le (s : Source σ) (count : Nat) (placed : w.Placed) :
    (skip s.logged count w).2.calls.length ≤ w.calls.length + 64 * count := by
  induction count generalizing w with
  | zero => exact Nat.le_refl _
  | succ count ih =>
    have calls := next_calls_le s placed
    obtain ⟨_, onward⟩ := next_onward s placed
    have placed' := onward.placed placed
    unfold skip
    generalize next s.logged w = r at calls placed'
    obtain ⟨_ | _ | _, w'⟩ := r
    · dsimp only at calls ⊢
      omega
    · dsimp only at calls ⊢
      omega
    · dsimp only at calls placed'
      refine Nat.le_trans (ih placed') ?_
      omega

end Calls

/-! ## Behind empty pages -/

/-- **The source has run out of pages**: the last page is known, or the last answer was that there
is none. -/
def RanOut (w : Walk (σ × List Call)) : Prop :=
  w.continuation? = none ∨ ∃ past token, w.calls = past ++ [⟨token, .ok none⟩]

/-- **What comes later comes from behind the known pages**, whatever was done in between. They are
kept; the first call that is made carries the token of the last of them; and a step that finds every
known track in front of it, nothing having been asked for since, makes a call and yields the first
track that is delivered, or none if there is none. -/
structure Resumes (s : Source σ) (w : Walk (σ × List Call)) (token : String) : Prop where
  kept : ∀ moves, w.pages <+: (run s.logged moves w).2.pages
  first : ∀ moves c rest, (run s.logged moves w).2.calls = w.calls ++ c :: rest →
    c.token = some token
  next : ∀ moves, let w' := (run s.logged moves w).2
    w'.calls = w.calls → w'.ahead = trackCount w'.pages →
      ∃ c rest, (next s.logged w').2.calls = w.calls ++ c :: rest ∧
        ∀ t, (next s.logged w').1 = .ok t → t = (allTracks (delivered (c :: rest))).head?

section Empty

variable {s : Source σ} {w w' : Walk (σ × List Call)} {token : Option String}

theorem ranOut_of_fetchPage (fetch : fetchPage s.logged w = (.ok none, w')) : RanOut w' := by
  unfold fetchPage at fetch
  cases due : w.continuation? with
  | none =>
    rw [due] at fetch
    cases fetch
    exact .inl due
  | some token =>
    rw [due] at fetch
    rcases answer : s.fetch token w.source.1 with ⟨_ | _ | page, source⟩
    all_goals
      simp only [Source.logged, answer] at fetch
      cases fetch
    exact .inr ⟨w.calls, token, rfl⟩

theorem of_fetchPage_empty (fetch : fetchPage s.logged w = (.ok (some 0), w')) :
    ∃ c, w'.calls = w.calls ++ [c] ∧ c.IsEmpty := by
  have asked := fetchPage_asked s w
  rw [fetch] at asked
  generalize none : (0 : Nat) = count at asked
  cases asked with
  | arrived asks _ delivers =>
    exact ⟨_, asks.log, _, delivers, List.length_eq_zero_iff.mp none.symm⟩

/-- A fetch that brings no track from a source with more pages met nothing but empty ones. -/
theorem fetchWithin_empty {n : Nat} (fetch : fetchWithin s.logged n w = (.ok false, w'))
    (more : ¬RanOut w') :
    ∃ calls, w'.calls = w.calls ++ calls ∧ calls.length = n ∧ ∀ c ∈ calls, c.IsEmpty := by
  induction n generalizing w with
  | zero =>
    cases fetch
    exact ⟨[], (List.append_nil _).symm, rfl, by simp⟩
  | succ n ih =>
    unfold fetchWithin at fetch
    rcases page : fetchPage s.logged w with ⟨_ | _ | _ | _, w₁⟩
    all_goals rw [page] at fetch
    · cases fetch
    · cases fetch
      exact (more (ranOut_of_fetchPage page)).elim
    · obtain ⟨c, log, empty⟩ := of_fetchPage_empty page
      obtain ⟨calls, log', length, rest⟩ := ih fetch
      refine ⟨c :: calls, ?_, congrArg Nat.succ length, List.forall_mem_cons.mpr ⟨empty, rest⟩⟩
      rw [log', log, List.append_assoc, List.singleton_append]
    · cases fetch

theorem exists_track_of_stepOn? {w w' : Walk σ} {t : Option Track} (placed : w.Placed)
    (found : stepOn? w = some (t, w')) : ∃ x, t = some x := by
  obtain ⟨p, settled, stepped⟩ := Option.map_eq_some_iff.mp found
  cases stepped
  rw [placed.slot.settle?_eq_locate?] at settled
  exact (Position.locate?_eq_some_iff.mp settled).1.exists_track

/-- A step that finds no track ends with a fetch that brings none. -/
theorem fetch_of_next_none (placed : w.Placed) (answer : (next s.logged w).1 = .ok none) :
    fetchTracks s.logged w = (.ok false, (next s.logged w).2) := by
  have loop : Looks s.logged stepOn? none w (next s.logged w) := (looks_next_iff placed).mpr rfl
  generalize next s.logged w = r at answer loop
  obtain ⟨_, w'⟩ := r
  subst answer
  cases loop with
  | there found =>
    obtain ⟨_, some⟩ := exists_track_of_stepOn? placed found
    cases some
  | ended _ fetch => exact fetch
  | again _ fetch rest =>
    -- behind a page with tracks the next track is there
    obtain ⟨grows, more⟩ := fetchTracks_brings fetch
    have known := stepOn?_ne_none placed grows (Nat.lt_of_le_of_lt placed.ahead_le more)
    cases rest with
    | there found =>
      obtain ⟨_, some⟩ := exists_track_of_stepOn? (grows.placed placed).1 found
      cases some
    | ended missing | again missing => exact (known missing).elim

/-! ### Going on behind them -/

theorem fetchPage_asks (due : w.continuation? = some token) :
    ∃ c, (fetchPage s.logged w).2.calls = w.calls ++ [c] := by
  unfold fetchPage
  rw [due]
  rcases answer : s.fetch token w.source.1 with ⟨_ | _ | page, source⟩
  all_goals
    simp only [Source.logged, answer]
    exact ⟨_, rfl⟩

theorem fetchTracks_asks (due : w.continuation? = some token) :
    ∃ c rest, (fetchTracks s.logged w).2.calls = w.calls ++ c :: rest := by
  obtain ⟨c, log⟩ := fetchPage_asks (s := s) due
  unfold fetchTracks maxEmptyPages fetchWithin
  generalize fetchPage s.logged w = r at log
  obtain ⟨_ | _ | _ | _, w₁⟩ := r
  · exact ⟨c, [], log⟩
  · exact ⟨c, [], log⟩
  · obtain ⟨rest, fetch⟩ := fetchWithin_fetch s 63 w₁
    refine ⟨c, rest, fetch.asks.log.trans ?_⟩
    rw [show w₁.calls = _ from log, List.append_assoc, List.singleton_append]
  · exact ⟨c, [], log⟩

/-- A step asks for what is not known, if there is more to ask for. -/
theorem next_asks (placed : w.Placed) (unknown : w.ahead = trackCount w.pages)
    (due : w.continuation? = some token) :
    ∃ c rest, (next s.logged w).2.calls = w.calls ++ c :: rest := by
  have missing : w.candidate.settle? w.pages = none :=
    placed.slot.settle?_eq_locate?.trans
      (Position.locate?_eq_none_iff.mpr (Nat.le_of_eq unknown.symm))
  obtain ⟨c, rest, log⟩ := fetchTracks_asks (s := s) due
  refine ⟨c, rest, ?_⟩
  unfold next
  rw [missing]
  generalize fetchTracks s.logged w = r at log
  obtain ⟨_ | _ | _, w'⟩ := r
  · exact log
  · exact log
  · dsimp only
    split <;> exact log

/-- A step that finds every known track in front of it yields the first new one. -/
theorem Onward.head {calls : List Call} {t : Option Track}
    (h : Onward w calls (.ok t, w')) (unknown : w.ahead = trackCount w.pages) :
    t = (allTracks (delivered calls)).head? := by
  have pages : w'.pages = w.pages ++ delivered calls := h.asks.pages
  cases h.leads with
  | @there p x _ holds index track =>
    have holds : p.Holds w'.pages := holds
    have index : p.index w'.pages = w.ahead := index
    have track : p.track? w'.pages = some x := track
    rw [holds.track?_eq_getElem?, index, unknown, ← length_allTracks, pages, allTracks_append,
      List.getElem?_append_right (Nat.le_refl _), Nat.sub_self, ← List.head?_eq_getElem?] at track
    exact track.symm
  | nowhere ne _ all =>
    have all : trackCount w'.pages = w.ahead := all
    rw [pages, trackCount_append, unknown] at all
    have none : allTracks (delivered calls) = [] := by
      rw [← List.length_eq_zero_iff, length_allTracks]
      omega
    rw [none]
    cases t with
    | none => rfl
    | some x => exact (ne x rfl).elim

/-- **Whoever comes back goes on behind the known pages.** -/
theorem Placed.resumes (s : Source σ) {token : String} (placed : w.Placed)
    (due : w.continuation? = some (some token)) : Resumes s w token := by
  refine ⟨fun moves => ?_, fun moves c rest log => ?_, fun moves => ?_⟩
  · obtain ⟨⟨calls, asks⟩, -⟩ := run_asks s moves placed
    rw [asks.pages]
    exact List.prefix_append _ _
  · obtain ⟨⟨calls, asks⟩, -⟩ := run_asks s moves placed
    have split : calls = [] ++ c :: rest := List.append_cancel_left (asks.log.symm.trans log)
    have first := asks.due [] c rest split
    rw [delivered_nil, List.append_nil, ← continuation?_eq_some_iff, due] at first
    exact (Option.some.inj first).symm
  · intro w' idle unknown
    obtain ⟨⟨calls, asks⟩, placed'⟩ := run_asks s moves placed
    have none : calls = [] := by
      have log := asks.log
      rw [idle] at log
      simpa using log
    have pages : w'.pages = w.pages := by simpa [none] using asks.pages
    have due' : w'.continuation? = some (some token) := by
      rw [← due, continuation?, continuation?, pages]
    obtain ⟨c, rest, log⟩ := next_asks (s := s) placed' unknown due'
    obtain ⟨calls', onward⟩ := next_onward s placed'
    have same : calls' = c :: rest := List.append_cancel_left (onward.asks.log.symm.trans log)
    refine ⟨c, rest, idle ▸ log, fun t answer => ?_⟩
    rw [same] at onward
    rw [show next s.logged w' = (.ok t, (next s.logged w').2) from Prod.ext answer rfl] at onward
    exact onward.head unknown

/-- There is a token behind a page that is not the last one. -/
theorem exists_token_of_continuation? {w : Walk σ} (some : w.pages ≠ [])
    (more : w.continuation? ≠ none) : ∃ token, w.continuation? = .some (.some token) := by
  unfold continuation? at more ⊢
  rw [List.getLast?_eq_some_getLast some] at more ⊢
  cases next : (w.pages.getLast some).nextToken with
  | none => simp [next] at more
  | some token => exact ⟨token, by simp [next]⟩

/-- A step that gave up on empty pages lost nothing. -/
theorem resumes_of_next_none (placed : w.Placed) (answer : (next s.logged w).1 = .ok none)
    (more : ¬RanOut (next s.logged w).2) :
    ∃ calls token, (next s.logged w).2.calls = w.calls ++ calls ∧
      calls.length = maxEmptyPages ∧ (∀ c ∈ calls, c.IsEmpty) ∧
      (next s.logged w).2.continuation? = some (some token) ∧
      Resumes s (next s.logged w).2 token := by
  obtain ⟨calls, log, length, empty⟩ :=
    fetchWithin_empty (fetch_of_next_none placed answer) more
  obtain ⟨calls', onward⟩ := next_onward s placed
  have same : calls' = calls := List.append_cancel_left (onward.asks.log.symm.trans log)
  have pages : (next s.logged w).2.pages = w.pages ++ delivered calls := same ▸ onward.asks.pages
  -- the walk has a last page, the last of those that have just been delivered
  have some : (next s.logged w).2.pages ≠ [] := by
    have many : 0 < calls.length := by
      rw [length]
      exact Nat.succ_pos 63
    obtain ⟨c, mem⟩ := List.exists_mem_of_length_pos many
    obtain ⟨page, brought, -⟩ := empty c mem
    have known : page ∈ delivered calls := List.mem_filterMap.mpr ⟨c, mem, brought⟩
    rw [pages]
    exact List.append_ne_nil_of_right_ne_nil _ (List.ne_nil_of_mem known)
  obtain ⟨token, due⟩ := exists_token_of_continuation? some fun last => more (.inl last)
  exact ⟨calls, token, log, length, empty, due, (onward.placed placed).resumes s due⟩

end Empty

/-! ## The limits -/

/-- **Calls are limited, whatever the source answers.** Going on and seeking are loops that look for
a track without a limit, and yet they end: going on makes 64 calls at most, seeking 64 for each
track that is missing up to the one that it looks for, and skipping 64 for each track to skip. When
going on gives up although the source has not run out, then after 64 empty pages, with every known
track in front of the walk, and whatever comes next comes from behind those pages. A log of the
calls changes nothing. -/
theorem calls_are_limited (s : Source σ) (source : σ) (moves : List Move) :
    let r := run s.logged moves { source := (source, []) }
    let w := r.2
    let w' := (next s.logged w).2
    run s moves { source } = (r.1, w.unlogged) ∧
    (∀ r', Looks s stepOn? none w.unlogged r' ↔ r' = next s w.unlogged) ∧
    (∀ n r', Looks s (stepTo? n) false w.unlogged r' ↔ r' = seek s n w.unlogged) ∧
    (∃ calls, w'.calls = w.calls ++ calls ∧ calls.length ≤ 64) ∧
    (∀ n, ∃ calls, (seek s.logged n w).2.calls = w.calls ++ calls ∧
      calls.length ≤ 64 * (n + 1 - w.knownTracks)) ∧
    (∀ n, ∃ calls, (skip s.logged n w).2.calls = w.calls ++ calls ∧ calls.length ≤ 64 * n) ∧
    ((next s.logged w).1 = .ok none → ¬RanOut w' →
      (∃ calls, w'.calls = w.calls ++ calls ∧ calls.length = 64 ∧ ∀ c ∈ calls, c.IsEmpty) ∧
      w'.ahead = trackCount w'.pages ∧
      ∃ token, w'.continuation? = some (some token) ∧ Resumes s w' token) := by
  intro r w w'
  obtain ⟨-, placed⟩ := run_from_start s source moves
  have logged {w' : Walk (σ × List Call)} {limit : Nat} (asks : ∃ calls, Asks w w' calls)
      (le : w'.calls.length ≤ w.calls.length + limit) :
      ∃ calls, w'.calls = w.calls ++ calls ∧ calls.length ≤ limit := by
    obtain ⟨calls, asks⟩ := asks
    have log : w'.calls = w.calls ++ calls := asks.log
    rw [log, List.length_append] at le
    exact ⟨calls, log, Nat.le_of_add_le_add_left le⟩
  refine ⟨run_unlogged s { source := (source, []) } moves,
    fun _ => looks_next_iff (w := w.unlogged) placed, fun _ _ => looks_seek_iff,
    ?_, fun n => ?_, fun n => ?_, fun answer more => ?_⟩
  · exact logged (perform_asks s placed .next).1 (next_calls_le s placed)
  · exact logged (perform_asks s placed (.seek n)).1 (seek_calls_le s n w)
  · exact logged (perform_asks s placed (.skip n)).1 (skip_calls_le s n placed)
  · obtain ⟨calls, token, log, length, empty, due, resumes⟩ :=
      resumes_of_next_none placed answer more
    obtain ⟨calls', onward⟩ := next_onward s placed
    have stays := onward.leads.of_failed (fun t some => by rw [answer] at some; cases some)
    have same := (placed.append stays.1 onward.asks.pages).2
    exact ⟨⟨calls, log, length, empty⟩, same.trans stays.2.symm, token, due, resumes⟩

/-- Answers with as many empty pages as a step puts up with, and a track behind them. -/
def trackBehindEmptyPages : List Answer :=
  List.replicate 64 (.ok (some { tracks := [], nextToken := some "on" })) ++
    [.ok (some { tracks := [{ uri := "a" }] })]

/-- The first step gives up on them after 64 calls; the next one is on the track. -/
theorem track_behind_empty_pages :
    let w' := (next ofAnswers.logged { source := (trackBehindEmptyPages, []) }).2
    w'.calls.length = 64 ∧ (∃ token, Resumes ofAnswers w' token) ∧
      (next ofAnswers.logged w').1 = .ok (some { uri := "a" }) := by
  have gaveUp : (next ofAnswers.logged { source := (trackBehindEmptyPages, []) }).1 = .ok none :=
    rfl
  have more : ¬RanOut (next ofAnswers.logged { source := (trackBehindEmptyPages, []) }).2 := by
    rintro (last | ⟨past, token, log⟩)
    · revert last
      decide +kernel
    · -- the last call brought a page
      have page := congrArg (fun calls => calls.getLast?.bind Call.page?) log
      simp only [List.getLast?_concat, Option.bind_some, Call.page?] at page
      revert page
      decide +kernel
  obtain ⟨-, -, -, -, -, -, resumes⟩ := calls_are_limited ofAnswers trackBehindEmptyPages []
  obtain ⟨⟨calls, log, length, -⟩, -, token, -, resumes⟩ := resumes gaveUp more
  have count := congrArg List.length log
  rw [List.length_append, length] at count
  exact ⟨count, ⟨token, resumes⟩, rfl⟩

end Walk

end RemotePlayback.Paging
