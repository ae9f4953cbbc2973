import RemotePlayback.Double
import RemotePlayback.Table

/-!
TOML values.
-/

namespace RemotePlayback.Toml

/-- A TOML value. -/
inductive Value where
  | string (s : String)
  | integer (n : Int64)
  | float (d : Double)
  | bool (b : Bool)
  /-- A date, a time of the day, or both, as it is written. -/
  | time (written : String)
  | array (items : List Value)
  | table (entries : List (String × Value))
  deriving Inhabited

namespace Value

/-- The text of a string. -/
def text? : Value → Option String
  | .string s => some s
  | _ => none

/-- The truth value. -/
def bool? : Value → Option Bool
  | .bool b => some b
  | _ => none

/-- An integer within bounds. -/
def integerWithin? (low high : Int) : Value → Option Int
  | .integer n => if low ≤ n.toInt ∧ n.toInt ≤ high then some n.toInt else none
  | _ => none

/-- The fields that a value gives for a record: a table, or an array of the fields in their order; a
time gives none, so that all of them have their defaults. -/
def fields? (names : List String) : Value → Option (List (String × Value))
  | .table entries => some entries
  | .array items => some (names.zip items)
  | .time _ => some []
  | _ => none

/-- The value of a field, read as its type; a field that is not there has the default. -/
def field? {α : Type} (fields : List (String × Value)) (name : String) (default : α)
    (read : Value → Option α) : Option α :=
  match Entries.find? name fields with
  | some v => read v
  | none => some default

end Value

end RemotePlayback.Toml
