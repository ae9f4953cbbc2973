import RemotePlayback.Json.Document

/-!
What a reader keeps of a JSON text.

Keeping a part means giving it a value: strings must be text, surrogate escapes come in pairs,
numbers are in range, and containers are nested at most `maxDepth` deep, counted from the outermost
one. Of an object that is kept whole the last of repeated keys counts. A record with known fields
keeps those alone: other members are skipped whatever they hold, a known field that comes twice is
refused, and an array stands for the fields in the order of their declaration.
-/

namespace RemotePlayback.Json

namespace Document

/-- How many containers may be nested in what is kept. -/
def maxDepth : Nat := 127

/-! ## Strings -/

/-- The number written by four hexadecimal digits. -/
def hex4 (a b c d : UInt8) : Nat :=
  let v (x : UInt8) : Nat := (hexValue? x).getD 0
  ((v a * 16 + v b) * 16 + v c) * 16 + v d

/-- The first half of a pair of surrogates. -/
def isHighSurrogate (n : Nat) : Bool := 0xD800 ≤ n && n ≤ 0xDBFF

/-- The second half of a pair of surrogates. -/
def isLowSurrogate (n : Nat) : Bool := 0xDC00 ≤ n && n ≤ 0xDFFF

/-- Replaces the escapes of a body by what they stand for; surrogates must come in pairs. -/
def unescape? : Bytes → Option Bytes
  | [] => some []
  | 0x5C :: 0x75 :: a :: b :: c :: d :: rest =>
    let n := hex4 a b c d
    if isLowSurrogate n then none
    else if isHighSurrogate n then
      match rest with
      | 0x5C :: 0x75 :: e :: f :: g :: h :: rest' =>
        let m := hex4 e f g h
        if isLowSurrogate m then
          let c := Char.ofNat (0x10000 + (n - 0xD800) * 0x400 + (m - 0xDC00))
          (unescape? rest').map (String.utf8EncodeChar c ++ ·)
        else none
      | _ => none
    else (unescape? rest).map (String.utf8EncodeChar (Char.ofNat n) ++ ·)
  | 0x5C :: e :: rest =>
    match letterValue? e with
    | some b => (unescape? rest).map (b :: ·)
    | none => none
  | b :: rest => (unescape? rest).map (b :: ·)

/-- The text that the body of a string stands for. -/
def bodyText? (body : Bytes) : Option String := (unescape? body).bind Bytes.toText?

/-! ## Whole values -/

mutual

/-- The value of a document, its containers nested at most `depth` deep. -/
def value? : (depth : Nat) → Document → Option Json
  | _, .null => some .null
  | _, .bool b => some (.bool b)
  | _, .number n => n.value?.map .number
  | _, .string body => (bodyText? body).map .string
  | 0, .array _ => none
  | depth + 1, .array items => (itemValues? depth items).map .array
  | 0, .object _ => none
  | depth + 1, .object members => (memberValues? depth members []).map .object

/-- The values of the elements of an array. -/
def itemValues? : (depth : Nat) → List Document → Option (List Json)
  | _, [] => some []
  | depth, d :: ds =>
    match value? depth d with
    | some v => (itemValues? depth ds).map (v :: ·)
    | none => none

/-- The values of the members of an object, entered one after the other. -/
def memberValues? : (depth : Nat) → List (Bytes × Document) → List (String × Json) →
    Option (List (String × Json))
  | _, [], entered => some entered
  | depth, (k, d) :: ms, entered =>
    match bodyText? k, value? depth d with
    | some k, some v => memberValues? depth ms (Entries.insert k v entered)
    | _, _ => none

end

/-! ## Records -/

/-- The known fields that a text gives for a record, and how deep their containers may nest. -/
structure Record where
  depth : Nat
  fields : List (String × Document)

namespace Record

/-- Pairs the elements of an array with the declared fields; a surplus is refused. -/
def ofItems? : (names : List String) → List Document → Option (List (String × Document))
  | _, [] => some []
  | [], _ :: _ => none
  | n :: names, d :: ds => (ofItems? names ds).map ((n, d) :: ·)

/-- Picks the declared fields out of the members of an object; none may come twice. -/
def ofMembers? (names : List String) : List (Bytes × Document) →
    List (String × Document) → Option (List (String × Document))
  | [], found => some found
  | (k, d) :: ms, found =>
    match bodyText? k with
    | none => none
    | some k =>
      if k ∈ names then
        if (Entries.find? k found).isSome then none
        else ofMembers? names ms (found ++ [(k, d)])
      else ofMembers? names ms found

/-- The value of a field; a field that is not there has the default, if it has one. -/
def field {α : Type} (r : Record) (name : String) (default : Option α)
    (read : Nat → Document → Option α) : Option α :=
  match Entries.find? name r.fields with
  | some d => read r.depth d
  | none => default

end Record

/-- The record that a document gives, with the declared fields in their order. -/
def record? (names : List String) : (depth : Nat) → Document → Option Record
  | depth + 1, .object members => (Record.ofMembers? names members []).map (⟨depth, ·⟩)
  | depth + 1, .array items => (Record.ofItems? names items).map (⟨depth, ·⟩)
  | _, _ => none

/-! ## Fields of known types -/

/-- A text. -/
def text? : (depth : Nat) → Document → Option String
  | _, .string body => bodyText? body
  | _, _ => none

/-- A truth value. -/
def bool? : (depth : Nat) → Document → Option Bool
  | _, .bool b => some b
  | _, _ => none

/-- An integer within bounds. -/
def integer? (low high : Int) : (depth : Nat) → Document → Option Int
  | _, .number n =>
    match n.value? with
    | some (.integer i) => if low ≤ i ∧ i ≤ high then some i else none
    | _ => none
  | _, _ => none

/-- A value or null. -/
def optional? {α : Type} (read : Nat → Document → Option α) :
    (depth : Nat) → Document → Option (Option α)
  | _, .null => some none
  | depth, d => (read depth d).map some

/--
One of several named alternatives: its name alone, or an object with the name as its only key and
the content of the alternative under it.
-/
def choice? : (depth : Nat) → Document → Option (String × Option Document)
  | _, .string body => (bodyText? body).map (·, none)
  | _ + 1, .object [(k, d)] => (bodyText? k).map (·, some d)
  | _, _ => none

/-- Reads every element of a list. -/
def readAll? {α : Type} (read : Document → Option α) : List Document → Option (List α)
  | [] => some []
  | d :: ds =>
    match read d with
    | some x => (readAll? read ds).map (x :: ·)
    | none => none

/-- An array of values of one type. -/
def list? {α : Type} (read : Nat → Document → Option α) :
    (depth : Nat) → Document → Option (List α)
  | depth + 1, .array items => readAll? (read depth) items
  | _, _ => none

/-- Enters the members of an object into a table, the last of a repeated key winning. -/
def enterAll? {α : Type} (read : Document → Option α) :
    List (Bytes × Document) → Table α → Option (Table α)
  | [], t => some t
  | (k, d) :: ms, t =>
    match bodyText? k, read d with
    | some k, some v => enterAll? read ms (t.insert k v)
    | _, _ => none

/-- An object with free keys and values of one type. -/
def table? {α : Type} (read : Nat → Document → Option α) :
    (depth : Nat) → Document → Option (Table α)
  | depth + 1, .object members => enterAll? (read depth) members Table.empty
  | _, _ => none

end Document

/-- The value that a whole text means. -/
def parse? (s : Bytes) : Option Json := (Document.read? s).bind (·.value? Document.maxDepth)

/-- The value at the front of a text; what follows it is not looked at. -/
def parsePart? (s : Bytes) : Option Json :=
  (Document.readPart? s).bind (·.1.value? Document.maxDepth)

/-- Reads a whole text as a value of a known type. -/
def parseAs? {α : Type} (read : Nat → Document → Option α) (s : Bytes) : Option α :=
  (Document.read? s).bind (read Document.maxDepth)

/-! ## Values as documents -/

namespace Document

/-- The body of a string as it is written. -/
def bodyOf (s : String) : Bytes := Bytes.ofText (String.ofList (s.toList.flatMap Json.escaped))

mutual

/-- The tree of a value's compact text. -/
def ofValue : Json → Document
  | .null => .null
  | .bool b => .bool b
  | .number n => .number n.numeral
  | .string s => .string (bodyOf s)
  | .array xs => .array (ofItems xs)
  | .object ms => .object (ofMembers ms)

/-- The trees of the elements of an array. -/
def ofItems : List Json → List Document
  | [] => []
  | x :: xs => ofValue x :: ofItems xs

/-- The trees of the members of an object. -/
def ofMembers : List (String × Json) → List (Bytes × Document)
  | [] => []
  | (k, v) :: ms => (bodyOf k, ofValue v) :: ofMembers ms

end

end Document

end RemotePlayback.Json
