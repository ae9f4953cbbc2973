import RemotePlayback.Json.Shape

/-!
How this device presents itself to the others.
-/

namespace RemotePlayback.Device

/-- What sort of thing the device is. -/
inductive Kind where
  | computer
  | tablet
  | smartphone
  | speaker
  | tv
  | avr
  | stb
  | audioDongle
  | gameConsole
  | automobile
  deriving DecidableEq, Inhabited

namespace Kind

/-- All kinds. -/
def all : List Kind :=
  [computer, tablet, smartphone, speaker, tv, avr, stb, audioDongle, gameConsole, automobile]

/-- The name of a kind. -/
def name : Kind → String
  | computer => "computer"
  | tablet => "tablet"
  | smartphone => "smartphone"
  | speaker => "speaker"
  | tv => "tv"
  | avr => "avr"
  | stb => "stb"
  | audioDongle => "audio_dongle"
  | gameConsole => "game_console"
  | automobile => "automobile"

/-- The number of a kind in messages. -/
def number : Kind → Int32
  | computer => 1
  | tablet => 2
  | smartphone => 3
  | speaker => 4
  | tv => 5
  | avr => 6
  | stb => 7
  | audioDongle => 8
  | gameConsole => 9
  | automobile => 12

/-- The kind of a name. -/
def ofName? (name : String) : Option Kind := all.find? (·.name == name)

theorem ofName?_name (k : Kind) : ofName? k.name = some k := by cases k <;> decide

/-- The kind that a value stands for: its name, or an object with a null under the name. -/
def ofJson? : Json → Option Kind
  | .string name => ofName? name
  | .object [(name, .null)] => ofName? name
  | _ => none

end Kind

/-- How the device presents itself. -/
structure Settings where
  name : String := "connectd"
  kind : Kind := .computer
  /-- The id that the device keeps from run to run. -/
  id : Option String := none
  volumeSteps : Int32 := 64
  deriving DecidableEq, Inhabited

open Json in
/-- The settings that a value stands for; what is not there has its default. -/
def Settings.ofJson? (v : Json) : Option Settings := do
  let fields ← fields? ["name", "device_type", "device_id", "volume_steps"] v
  let base : Settings := {}
  let name ← field? fields "name" (some base.name) text?
  let kind ← field? fields "device_type" (some base.kind) Kind.ofJson?
  let id ← field? fields "device_id" (some base.id) fun
    | .null => some none
    | v => v.text?.map some
  let volumeSteps ← field? fields "volume_steps" (some base.volumeSteps.toInt)
    (integerWithin? (-2 ^ 31) (2 ^ 31 - 1))
  return ⟨name, kind, id, Int32.ofInt volumeSteps⟩

end RemotePlayback.Device
