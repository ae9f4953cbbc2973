import RemotePlayback.Cluster.Messages

/-!
What is repeated when it ends: nothing, the context, or the track.
-/

namespace RemotePlayback.Playback

/-- What is played again. -/
inductive Repeat where
  | none
  | context
  | track
  deriving DecidableEq, Inhabited

namespace Repeat

/-- The name of a mode. -/
def name : Repeat → String
  | none => "none"
  | context => "context"
  | track => "track"

/-- The mode of a name; repeating nothing is also called `off`. -/
def ofName? (name : String) : Option Repeat :=
  if name = "none" ∨ name = "off" then some none
  else if name = "context" then some context
  else if name = "track" then some track
  else Option.none

/-- The mode of a player; repeating the track goes before repeating the context. -/
def ofOptions : Option Cluster.PlayerOptions → Repeat
  | some o => if o.repeatingTrack then track else if o.repeatingContext then context else none
  | Option.none => none

theorem ofName?_name (r : Repeat) : ofName? r.name = some r := by cases r <;> decide

end Repeat

end RemotePlayback.Playback
