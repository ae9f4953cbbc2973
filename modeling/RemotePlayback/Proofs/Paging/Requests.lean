import RemotePlayback.Proofs.Paging.AnySource

/-!
Which pages are asked for, and when.

Every call carries the token of the page that was delivered last, so behind a page without a token
there are no more calls (`continues_of_due`). Calls are made only for a track that is not known, and
stop at the page that holds it. The main statement is `requests_follow_deliveries`.

A source may hand out one token with several pages, and then the token is asked for again although
it brought a page (`token_brings_pages_again`). That is the only way in which this happens
(`repeated_of_due`).
-/

namespace RemotePlayback.Paging

open Source

/-- The token of a call that was due is that of the page delivered last. -/
theorem Due.of_last {pages : List Page} {page : Page} {token : Option String}
    (h : Due pages token) (last : pages.getLast? = some page) :
    page.nextToken = token ∧ token ≠ none := by
  unfold Due at h
  rwa [last] at h

section Calls

variable {calls : List Call}
  (due : ∀ past c rest, calls = past ++ c :: rest → Due (delivered past) c.token)
include due

/-- **Behind a page without a token nothing is asked for.** -/
theorem continues_of_due {past rest : List Call} {c : Call} (split : calls = past ++ c :: rest) :
    ∀ page ∈ delivered past, page.nextToken ≠ none := by
  intro page mem
  obtain ⟨d, among, page?⟩ := List.mem_filterMap.mp mem
  obtain ⟨before, after, rfl⟩ := List.append_of_mem among
  have last : (delivered (before ++ [d])).getLast? = some page := by
    simp [delivered_singleton, page?]
  -- the call behind the one that delivered the page carried its token
  cases after with
  | nil =>
    obtain ⟨token, some⟩ := (due _ c rest (by simpa using split)).of_last last
    exact token ▸ some
  | cons x after =>
    obtain ⟨token, some⟩ := (due _ x (after ++ c :: rest) (by simpa using split)).of_last last
    exact token ▸ some

/-- **A token that has brought a page comes back only with a page that carries it.** -/
theorem repeated_of_due {past between rest : List Call} {c c' : Call}
    (split : calls = past ++ c :: between ++ c' :: rest) (same : c'.token = c.token) :
    c.page? = none ∨
      c.token ≠ none ∧ ∃ page ∈ delivered (c :: between), page.nextToken = c.token := by
  cases brought : c.page? with
  | none => exact .inl rfl
  | some first =>
    have later : (delivered (past ++ c :: between)).getLast? =
        (delivered (c :: between)).getLast? := by
      rw [delivered_append, List.getLast?_append]
      simp [delivered, brought, List.getLast?_cons]
    cases last : (delivered (c :: between)).getLast? with
    | none =>
      have nothing := List.getLast?_eq_none_iff.mp last
      simp [delivered, brought] at nothing
    | some page =>
      obtain ⟨token, some⟩ := (due _ c' rest split).of_last (later.trans last)
      rw [same] at token some
      exact .inr ⟨some, page, List.mem_of_getLast? last, token⟩

end Calls

namespace Walk

variable {σ : Type}

/-- Every call of a walk was due. -/
theorem due_from_start (s : Source σ) (source : σ) (moves : List Move) :
    ∀ past c rest, (run s.logged moves { source := (source, []) }).2.calls = past ++ c :: rest →
      Due (delivered past) c.token := by
  obtain ⟨⟨calls, asks⟩, -⟩ := run_asks s moves (placed_start (source, []))
  rw [show (run s.logged moves { source := (source, []) }).2.calls = calls from asks.log]
  exact asks.due

/-- **Requests follow the deliveries, whatever the source answers.** Each call carries no token
before the first page and the token of the page delivered last after it, and none is made behind a
page without a token. Going back and looking make no call. Going on and seeking make one only while
the track that they look for is not among the pages delivered so far; if they get there after calls,
that track is on the page delivered last. A token that was asked for comes back only if it brought
no page, or if a page that was delivered since then carries it again. A log of the calls changes
nothing. -/
theorem requests_follow_deliveries (s : Source σ) (source : σ) (moves : List Move) :
    let r := run s.logged moves { source := (source, []) }
    let w := r.2
    run s moves { source } = (r.1, w.unlogged) ∧ w.pages = delivered w.calls ∧
    (∀ past c rest, w.calls = past ++ c :: rest →
      Due (delivered past) c.token ∧ ∀ page ∈ delivered past, page.nextToken ≠ none) ∧
    (∀ m ∈ [Move.previous, .current], (w.perform s.logged m).2.calls = w.calls) ∧
    (∃ calls, (next s.logged w).2.calls = w.calls ++ calls ∧
      (∀ past c rest, calls = past ++ c :: rest →
        trackCount (delivered (w.calls ++ past)) ≤ w.ahead) ∧
      ∀ t, (next s.logged w).1 = .ok (some t) → ∃ p, (next s.logged w).2.cursor = .at p ∧
        p.track? (delivered (w.calls ++ calls)) = some t ∧
        p.index (delivered (w.calls ++ calls)) = w.ahead ∧
        (calls ≠ [] → p.page + 1 = (delivered (w.calls ++ calls)).length)) ∧
    (∀ n, ∃ calls, (seek s.logged n w).2.calls = w.calls ++ calls ∧
      (∀ past c rest, calls = past ++ c :: rest →
        trackCount (delivered (w.calls ++ past)) ≤ n) ∧
      ((seek s.logged n w).1 = .ok true → ∃ p, (seek s.logged n w).2.cursor = .before p ∧
        p.Holds (delivered (w.calls ++ calls)) ∧ p.index (delivered (w.calls ++ calls)) = n ∧
        (calls ≠ [] → p.page + 1 = (delivered (w.calls ++ calls)).length))) ∧
    ∀ past c between c' rest, w.calls = past ++ c :: between ++ c' :: rest → c'.token = c.token →
      c.page? = none ∨
        c.token ≠ none ∧ ∃ page ∈ delivered (c :: between), page.nextToken = c.token := by
  intro r w
  obtain ⟨pages, placed⟩ := run_from_start s source moves
  have due := due_from_start s source moves
  have behind {w' : Walk (σ × List Call)} {calls : List Call} (asks : Asks w w' calls) :
      w'.pages = delivered (w.calls ++ calls) := by
    rw [asks.pages, pages, delivered_append]
  refine ⟨run_unlogged s { source := (source, []) } moves, pages, ?_, ?_, ?_, ?_, ?_⟩
  · intro past c rest split
    exact ⟨due past c rest split, continues_of_due due split⟩
  · intro m mem
    rcases List.mem_cons.mp mem with rfl | mem
    · exact congrArg Prod.snd (previous_placed placed).2.2
    · rw [List.mem_singleton.mp mem]
      rfl
  · obtain ⟨calls, onward⟩ := next_onward s placed
    refine ⟨calls, onward.asks.log, ?_, ?_⟩
    · intro past c rest split
      rw [delivered_append, ← pages]
      exact onward.needed past c rest split
    · intro t there
      have leads := onward.leads
      rw [there] at leads
      obtain ⟨p, cursor, -, index, track, last⟩ := leads.of_some
      rw [behind onward.asks] at index track last
      exact ⟨p, cursor, track, index, last⟩
  · intro n
    obtain ⟨calls, seeks⟩ := seek_seeks s n w
    refine ⟨calls, seeks.asks.log, ?_, ?_⟩
    · intro past c rest split
      rw [delivered_append, ← pages]
      exact seeks.needed past c rest split
    · intro there
      have reaches := seeks.reaches
      rw [there] at reaches
      obtain ⟨p, cursor, holds, index, last⟩ := reaches.of_true
      rw [behind seeks.asks] at holds index last
      exact ⟨p, cursor, holds, index, last⟩
  · intro past c between c' rest split same
    exact repeated_of_due due split same

/-- A context that goes on for ever: the token of the second page leads to that page itself. -/
def endlessLoop : Source Unit :=
  ofEntries [
    (none, { tracks := [{ uri := "a" }], nextToken := some "again" }),
    (some "again", { tracks := [{ uri := "b" }], nextToken := some "again" })]

/-- The token is asked for a second time, although it brought a page the first time. -/
theorem token_brings_pages_again :
    ∃ past c between c' rest,
      (run endlessLoop.logged [.next, .next, .next] { source := ((), []) }).2.calls =
        past ++ c :: between ++ c' :: rest ∧
      c.token = some "again" ∧ c'.token = c.token ∧ c.page? ≠ none := by
  refine ⟨[_], _, [], _, [], rfl, rfl, rfl, nofun⟩

end Walk

end RemotePlayback.Paging
