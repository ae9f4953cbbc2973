/-!
Stretches of time, such as the position within a track.

A span counts nanoseconds and is never negative. Positions travel in whole milliseconds; the
fraction below a millisecond is cut off.
-/

namespace RemotePlayback.Playback

/-- A stretch of time. -/
structure Span where
  nanoseconds : Nat
  deriving DecidableEq, Inhabited

namespace Span

/-- The empty stretch. -/
def zero : Span := ⟨0⟩

/-- A number of milliseconds. -/
def ofMilliseconds (n : Nat) : Span := ⟨n * 1000000⟩

/-- A number of seconds, and of nanoseconds more. -/
def ofSeconds (seconds nanoseconds : Nat) : Span := ⟨seconds * 1000000000 + nanoseconds⟩

/-- The whole milliseconds of a span. -/
def milliseconds (s : Span) : Nat := s.nanoseconds / 1000000

@[simp] theorem milliseconds_ofMilliseconds (n : Nat) : (ofMilliseconds n).milliseconds = n := by
  simp [ofMilliseconds, milliseconds]

end Span

end RemotePlayback.Playback
