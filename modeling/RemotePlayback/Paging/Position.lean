import RemotePlayback.Paging.Page

/-!
Places in a list of pages.

A position is the place of a page and of a track in it; pages may be empty anywhere. `locate?` finds
the position of a track counted through all pages, `settle?` the first track from a position on,
`predecessor?` the last track before one.
-/

namespace RemotePlayback.Paging

/-- A place among pages. -/
structure Position where
  page : Nat
  track : Nat
  deriving DecidableEq, Inhabited

/-- How many tracks the pages hold. -/
def trackCount : List Page → Nat
  | [] => 0
  | p :: ps => p.tracks.length + trackCount ps

namespace Position

/-- The track at a position. -/
def track? (pages : List Page) (p : Position) : Option Track :=
  pages[p.page]?.bind (·.tracks[p.track]?)

/-- The first track of the pages, the first of which has the given place. -/
def first? (place : Nat) : List Page → Option Position
  | [] => none
  | p :: ps => if p.tracks = [] then first? (place + 1) ps else some ⟨place, 0⟩

/-- The last track of the pages, the first of which has the given place. -/
def last? (place : Nat) : List Page → Option Position
  | [] => none
  | p :: ps =>
    match last? (place + 1) ps with
    | some q => some q
    | none => if p.tracks = [] then none else some ⟨place, p.tracks.length - 1⟩

/-- The first track at a position or behind it. -/
def settle? (pages : List Page) (p : Position) : Option Position :=
  match pages[p.page]? with
  | none => none
  | some page =>
    if p.track < page.tracks.length then some p
    else first? (p.page + 1) (pages.drop (p.page + 1))

/-- The last track before a position. -/
def predecessor? (pages : List Page) (p : Position) : Option Position :=
  if 0 < p.track then some ⟨p.page, p.track - 1⟩ else last? 0 (pages.take p.page)

/-- The track with an index, counted from the first of the pages, which has the given place. -/
def locateFrom? (place : Nat) : List Page → (index : Nat) → Option Position
  | [], _ => none
  | p :: ps, index =>
    if index < p.tracks.length then some ⟨place, index⟩
    else locateFrom? (place + 1) ps (index - p.tracks.length)

/-- The track with an index, counted through all pages. -/
def locate? (pages : List Page) (index : Nat) : Option Position := locateFrom? 0 pages index

end Position

end RemotePlayback.Paging
