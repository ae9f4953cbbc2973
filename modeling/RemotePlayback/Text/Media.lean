import RemotePlayback.Text.Blank

/-!
Media types, the names of the formats of message bodies.

A media type has a type and a subtype, of which the part after the last plus sign is the suffix, and
perhaps parameters behind semicolons. Case does not matter.
-/

namespace RemotePlayback.Text

/-- The characters of names in a media type. -/
def isToken (c : Char) : Bool :=
  c.isAlphanum || "!#$%&'*+-.^_|~".toList.contains c || c = '\x60'

/-- The value of a parameter in quotes, up to its end. -/
def quotedValue? : List Char → Option (List Char)
  | [] => none
  | '"' :: rest => some rest
  | '\\' :: c :: rest => if c.toNat < 0x20 ∧ c ≠ '\t' then none else quotedValue? rest
  | c :: rest => if c.toNat < 0x20 ∧ c ≠ '\t' then none else quotedValue? rest

/-- Whether the parameters of a media type are well formed. -/
def areParameters : (fuel : Nat) → List Char → Bool
  | 0, _ => false
  | fuel + 1, s =>
    match s.dropWhile (· = ' ') with
    | [] => true
    | s =>
      match s.takeWhile isToken, s.dropWhile isToken with
      | _ :: _, '=' :: '"' :: rest =>
        match quotedValue? rest with
        | some (c :: rest) => (c = ';' || c = ' ') && areParameters fuel rest
        | some [] => true
        | none => false
      | _ :: _, '=' :: rest =>
        match rest.takeWhile isToken, rest.dropWhile isToken with
        | _ :: _, c :: rest => (c = ';' || c = ' ') && areParameters fuel rest
        | _, rest => rest = []
      | _, _ => false

/-- The subtype of a media type without its suffix, and the suffix. -/
def cutSuffix (subtype : List Char) : List Char × Option (List Char) :=
  match cutAt '+' subtype.reverse with
  | (reversed, some (c :: rest)) => ((c :: rest).reverse, some reversed.reverse)
  | _ => (subtype, none)

/-- Whether a media type stands for JSON: by its subtype or by its suffix. -/
def isJsonMedia (s : String) : Bool :=
  let cs := s.toList.map Char.toLower
  match cutAt '/' cs with
  | (kind, some rest) =>
    let subtype := rest.takeWhile isToken
    let (name, suffix) := cutSuffix subtype
    let wellFormed :=
      match rest.dropWhile isToken with
      | [] => true
      | c :: rest => (c = ';' || c = ' ') && areParameters (rest.length + 1) rest
    kind == "application".toList && subtype ≠ [] && wellFormed &&
      (name == "json".toList || suffix == some "json".toList)
  | _ => false

end RemotePlayback.Text
