import RemotePlayback.Json.Value

/-!
Values of a known shape, taken from JSON values that were already read.

A record with known fields is an object, of which other members are not looked at, or an array of
the fields in the order of their declaration. A field that is not there has its default, if it has
one; a field that is there must have the right type, and null is a value like any other.
-/

namespace RemotePlayback.Json

/-- Pairs the elements of an array with the declared fields; a surplus is refused. -/
def fieldsOfItems? : (names : List String) → List Json → Option (List (String × Json))
  | _, [] => some []
  | [], _ :: _ => none
  | n :: names, v :: vs => (fieldsOfItems? names vs).map ((n, v) :: ·)

/-- The fields that a value gives for a record. -/
def fields? (names : List String) : Json → Option (List (String × Json))
  | .object ms => some ms
  | .array vs => fieldsOfItems? names vs
  | _ => none

/-- The value of a field, read as its type; `default` stands in for a field that is not there. -/
def field? {α : Type} (fields : List (String × Json)) (name : String) (default : Option α)
    (read : Json → Option α) : Option α :=
  match Entries.find? name fields with
  | some v => read v
  | none => default

/-- An integer within bounds. -/
def integerWithin? (low high : Int) : Json → Option Int
  | .number (.integer i) => if low ≤ i ∧ i ≤ high then some i else none
  | _ => none

/-- Reads every element of a list; one that fails fails the list. -/
def readEach? {α : Type} (read : Json → Option α) : List Json → Option (List α)
  | [] => some []
  | v :: vs =>
    match read v with
    | some x => (readEach? read vs).map (x :: ·)
    | none => none

theorem readEach?_append {α : Type} (read : Json → Option α) (xs ys : List Json) :
    readEach? read (xs ++ ys) =
      (readEach? read xs).bind fun a => (readEach? read ys).map (a ++ ·) := by
  induction xs with
  | nil => simp [readEach?]
  | cons v xs ih =>
    simp only [List.cons_append, readEach?, ih]
    cases read v with
    | none => rfl
    | some x => cases readEach? read xs <;> cases readEach? read ys <;> simp

end RemotePlayback.Json
