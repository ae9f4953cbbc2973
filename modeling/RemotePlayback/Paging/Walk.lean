import RemotePlayback.Paging.Position
import RemotePlayback.Paging.Source

/-!
Walking through a context whose pages are fetched when they are needed.

A walk keeps every page that was fetched and remembers where it is: at the start, on a track, or
just before one. Going forward fetches pages only behind the last track it knows, and stops at a
page that is not empty. Going back and looking never fetch. Whatever fails leaves the walk where it
was, the pages that did arrive kept.
-/

namespace RemotePlayback.Paging

/-- Where a walk is. -/
inductive Cursor where
  | start
  | at (p : Position)
  /-- The track at the position comes next. -/
  | before (p : Position)
  deriving DecidableEq, Inhabited

/-- A walk through the pages of a source in a state. -/
structure Walk (σ : Type) where
  source : σ
  pages : List Page := []
  cursor : Cursor := .start

namespace Walk

variable {σ : Type}

/-- How many empty pages in a row are borne before the context counts as ended. -/
def maxEmptyPages : Nat := 64

/-- How many tracks are known. -/
def knownTracks (w : Walk σ) : Nat := trackCount w.pages

/-- The track that the walk is on. -/
def current? (w : Walk σ) : Option Track :=
  match w.cursor with
  | .at p => p.track? w.pages
  | _ => none

/-! ## Fetching -/

/-- The token to ask with: none at all behind the last page, no token before the first one. -/
def continuation? (w : Walk σ) : Option (Option String) :=
  match w.pages.getLast? with
  | none => some none
  | some page => page.nextToken.map some

/-- Asks for the page behind the known ones; the answer is the number of its tracks. -/
def fetchPage (s : Source σ) (w : Walk σ) : Except FetchFailure (Option Nat) × Walk σ :=
  match w.continuation? with
  | none => (.ok none, w)
  | some token =>
    match s.fetch token w.source with
    | (.ok (some page), source) =>
      (.ok (some page.tracks.length), { w with source, pages := w.pages ++ [page] })
    | (.ok none, source) => (.ok none, { w with source })
    | (.error e, source) => (.error e, { w with source })

/-- Asks for pages until one is not empty, and so many times at most. -/
def fetchWithin (s : Source σ) : (pages : Nat) → Walk σ → Except FetchFailure Bool × Walk σ
  | 0, w => (.ok false, w)
  | pages + 1, w =>
    match fetchPage s w with
    | (.ok none, w) => (.ok false, w)
    | (.ok (some 0), w) => fetchWithin s pages w
    | (.ok (some _), w) => (.ok true, w)
    | (.error e, w) => (.error e, w)

/-- Asks for pages until one is not empty; false when the context has ended. -/
def fetchTracks (s : Source σ) (w : Walk σ) : Except FetchFailure Bool × Walk σ :=
  fetchWithin s maxEmptyPages w

/-! ## Moving -/

/-- Where the next track is looked for. -/
def candidate (w : Walk σ) : Position :=
  match w.cursor with
  | .start => ⟨0, 0⟩
  | .at p => ⟨p.page, p.track + 1⟩
  | .before p => p

/-- Steps onto a position. -/
def moveTo (w : Walk σ) (p : Position) : Option Track × Walk σ :=
  (p.track? w.pages, { w with cursor := .at p })

/--
Goes to the next track; none when the context has ended. One fetch is enough, since a page that is
not empty has a first track behind any place in the pages before it.
-/
def next (s : Source σ) (w : Walk σ) : Except FetchFailure (Option Track) × Walk σ :=
  match w.candidate.settle? w.pages with
  | some p => ((.ok (w.moveTo p).1), (w.moveTo p).2)
  | none =>
    match fetchTracks s w with
    | (.ok false, w) => (.ok none, w)
    | (.error e, w) => (.error e, w)
    | (.ok true, w) =>
      match w.candidate.settle? w.pages with
      | some p => ((.ok (w.moveTo p).1), (w.moveTo p).2)
      | none => (.ok none, w)

/-- Goes back to the track before; none, and nowhere, when there is no such track. -/
def previous (w : Walk σ) : Option Track × Walk σ :=
  let target? : Option Position :=
    match w.cursor with
    | .start => none
    | .at p | .before p => p.predecessor? w.pages
  match target? with
  | some p => w.moveTo p
  | none => (none, w)

/-- Looks for the track with an index, fetching so many times at most. -/
def seekWithin (s : Source σ) (index : Nat) :
    (fetches : Nat) → Walk σ → Except FetchFailure Bool × Walk σ
  | fetches, w =>
    match Position.locate? w.pages index with
    | some p => (.ok true, { w with cursor := .before p })
    | none =>
      match fetches with
      | 0 => (.ok false, w)
      | fetches + 1 =>
        match fetchTracks s w with
        | (.ok true, w) => seekWithin s index fetches w
        | (.ok false, w) => (.ok false, w)
        | (.error e, w) => (.error e, w)

/--
Goes to just before the track with an index; false, and nowhere, when there is no such track. Each
fetch brings at least one track, so the missing tracks bound their number.
-/
def seek (s : Source σ) (index : Nat) (w : Walk σ) : Except FetchFailure Bool × Walk σ :=
  seekWithin s index (index + 1 - w.knownTracks) w

/-- Goes to the next track so many times; false when the context ends on the way. -/
def skip (s : Source σ) : (count : Nat) → Walk σ → Except FetchFailure Bool × Walk σ
  | 0, w => (.ok true, w)
  | count + 1, w =>
    match next s w with
    | (.ok (some _), w) => skip s count w
    | (.ok none, w) => (.ok false, w)
    | (.error e, w) => (.error e, w)

/-! ## Sequences of moves -/

/-- What can be asked of a walk. -/
inductive Move where
  | next
  | previous
  /-- Goes to just before the track with an index. -/
  | seek (index : Nat)
  | skip (count : Nat)
  | current
  deriving DecidableEq, Inhabited

/-- What a walk answers: a track, or whether it got there. -/
inductive Reply where
  | track (t : Option Track)
  | moved (there : Bool)
  deriving DecidableEq, Inhabited

/-- Does a move. -/
def perform (s : Source σ) (w : Walk σ) : Move → Except FetchFailure Reply × Walk σ
  | .next => let (t, w) := next s w; (t.map .track, w)
  | .previous => let (t, w) := w.previous; (.ok (.track t), w)
  | .seek index => let (b, w) := seek s index w; (b.map .moved, w)
  | .skip count => let (b, w) := skip s count w; (b.map .moved, w)
  | .current => (.ok (.track w.current?), w)

/-- Does one move after the other. -/
def run (s : Source σ) : List Move → Walk σ → List (Except FetchFailure Reply) × Walk σ
  | [], w => ([], w)
  | m :: moves, w =>
    let (reply, w) := w.perform s m
    let (replies, w) := run s moves w
    (reply :: replies, w)

end Walk

end RemotePlayback.Paging
