import RemotePlayback.Paging.Page

/-!
A context of exactly one track, which is known from the start.

There is nothing to go back to or to skip, and going to its only index changes nothing.
-/

namespace RemotePlayback.Paging

/-- A context of one track, and whether the track was reached. -/
structure Single where
  track : Track
  reached : Bool := false
  deriving DecidableEq, Inhabited

namespace Single

/-- The track, once it was reached. -/
def current? (s : Single) : Option Track := if s.reached then some s.track else none

/-- Goes to the track, the first time. -/
def next (s : Single) : Option Track × Single :=
  if s.reached then (none, s) else (some s.track, { s with reached := true })

/-- There is no track before. -/
def previous (s : Single) : Option Track × Single := (none, s)

/-- Whether an index is that of the track. -/
def seek (index : Nat) (s : Single) : Bool × Single := (index == 0, s)

/-- There are no tracks to skip. -/
def skip (_ : Nat) (s : Single) : Bool × Single := (false, s)

end Single

end RemotePlayback.Paging
