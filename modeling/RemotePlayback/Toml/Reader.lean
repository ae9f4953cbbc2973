import RemotePlayback.Toml.Number
import RemotePlayback.Toml.Tree

/-!
Reading a TOML text.

A text is a list of sections. The first holds the pairs before any header; each further one begins
with a header, which opens a table or adds one to a list of tables. Arrays and inline tables nest,
and the parts of a dotted key are as many, as `nesting` allows.
-/

namespace RemotePlayback.Toml

/-- One more than how deep arrays and inline tables may nest, and than how long a key may be. -/
def nesting : Nat := 80

/-! ## Keys -/

/-- The characters of a key without quotes. -/
def isBare (c : Char) : Bool := c.isAlphanum || c = '-' || c = '_'

/-- One part of a key, and what follows it. -/
def keyPart? : List Char → Option (String × List Char)
  | '"' :: rest => (basic? rest).map fun r => (String.ofList r.1, r.2)
  | '\'' :: rest => (literal? rest).map fun r => (String.ofList r.1, r.2)
  | s =>
    if s.takeWhile isBare = [] then none
    else some (String.ofList (s.takeWhile isBare), s.dropWhile isBare)

/-- The parts of a key, with blanks around each, and what follows them. -/
def keyParts? : (fuel : Nat) → List Char → Option (List String × List Char)
  | 0, _ => none
  | fuel + 1, s => do
    let (part, s) ← keyPart? (skipSpace s)
    match skipSpace s with
    | '.' :: rest =>
      let (parts, rest) ← keyParts? fuel rest
      return (part :: parts, rest)
    | s => return ([part], s)

/-- A key as the path to its last part, that part, and what follows. -/
def key? (s : List Char) : Option (List String × String × List Char) :=
  match keyParts? nesting s with
  | some (parts, rest) =>
    if parts.length < nesting then parts.getLast?.map fun last => (parts.dropLast, last, rest)
    else none
  | none => none

/-! ## Values -/

/-- Skips blanks, line breaks and comments. -/
def skipLines : (fuel : Nat) → List Char → List Char
  | 0, s => s
  | fuel + 1, s =>
    match skipComment (skipSpace s) with
    | '\n' :: rest => skipLines fuel rest
    | '\r' :: '\n' :: rest => skipLines fuel rest
    | s => s

mutual

/-- A value, with containers nested less than `depth` deep, and what follows it. -/
def value? : (fuel depth : Nat) → List Char → Option (Value × List Char)
  | 0, _, _ => none
  | fuel + 1, depth, s =>
    match s with
    | '[' :: rest =>
      if depth ≤ 1 then none
      else (items? fuel (depth - 1) rest).map fun r => (.array r.1, r.2)
    | '\x7b' :: rest =>
      if depth ≤ 1 then none
      else match skipSpace rest with
        | '\x7d' :: rest => some (.table [], rest)
        | _ => (pairs? fuel (depth - 1) [] rest).map fun r => (.table (Node.toValues r.1), r.2)
    | 't' :: 'r' :: 'u' :: 'e' :: rest => some (.bool true, rest)
    | 'f' :: 'a' :: 'l' :: 's' :: 'e' :: rest => some (.bool false, rest)
    | '"' :: _ | '\'' :: _ => (string? s).map fun r => (.string (String.ofList r.1), r.2)
    | _ => number? s

/-- The elements of an array up to its end; a comma may stand behind the last one. -/
def items? : (fuel depth : Nat) → List Char → Option (List Value × List Char)
  | 0, _, _ => none
  | fuel + 1, depth, s =>
    match skipLines s.length s with
    | ']' :: rest => some ([], rest)
    | s => do
      let (v, s) ← value? fuel depth s
      match skipLines s.length s with
      | ',' :: rest =>
        let (vs, rest) ← items? fuel depth rest
        return (v :: vs, rest)
      | ']' :: rest => return ([v], rest)
      | _ => none

/-- The pairs of an inline table up to its end, entered into those before. -/
def pairs? : (fuel depth : Nat) → Node.Contents → List Char → Option (Node.Contents × List Char)
  | 0, _, _, _ => none
  | fuel + 1, depth, before, s => do
    let (path, key, s) ← key? s
    let s ← char? '=' s
    let (v, s) ← value? fuel depth (skipSpace s)
    let entered ← Node.enter? key v path before
    match skipSpace s with
    | ',' :: rest => pairs? fuel depth entered rest
    | '\x7d' :: rest => return (entered, rest)
    | _ => none

end

/-! ## Sections -/

/-- A pair: the path of its key, the last part of the key, and the value. -/
structure Pair where
  path : List String
  key : String
  value : Value
  deriving Inhabited

/-- A header opens a table, or adds one to a list of tables. -/
inductive Header where
  | table (path : List String) (name : String)
  | element (path : List String) (name : String)
  deriving DecidableEq, Inhabited

/-- A header and the pairs behind it; the first section of a text has none. -/
structure Section where
  header : Option Header
  pairs : List Pair
  deriving Inhabited

/-- A header, its first bracket already read, and what follows its line. -/
def header? : List Char → Option (Header × List Char)
  | '[' :: s => do
    let (path, name, s) ← key? s
    let s ← char? ']' s
    let s ← char? ']' s
    let s ← lineEnd? s
    return (.element path name, s)
  | s => do
    let (path, name, s) ← key? s
    let s ← char? ']' s
    let s ← lineEnd? s
    return (.table path name, s)

/-- A pair, and what follows its line. -/
def pair? (s : List Char) : Option (Pair × List Char) := do
  let (path, key, s) ← key? s
  let s ← char? '=' s
  let (v, s) ← value? (s.length + 1) nesting (skipSpace s)
  let s ← lineEnd? s
  return (⟨path, key, v⟩, s)

/-- The sections of a text that is read within a section; the pairs of that one are given. -/
def sectionsFrom? : (fuel : Nat) → Option Header → List Pair → List Char → Option (List Section)
  | 0, _, _, _ => none
  | fuel + 1, header, before, s =>
    match skipSpace s with
    | [] => some [⟨header, before⟩]
    | '#' :: rest => (lineEnd? ('#' :: rest)).bind (sectionsFrom? fuel header before)
    | '\n' :: rest => sectionsFrom? fuel header before rest
    | '\r' :: '\n' :: rest => sectionsFrom? fuel header before rest
    | '[' :: rest => do
      let (next, rest) ← header? rest
      let sections ← sectionsFrom? fuel (some next) [] rest
      return ⟨header, before⟩ :: sections
    | s => do
      let (pair, s) ← pair? s
      sectionsFrom? fuel header (before ++ [pair]) s

/-- The sections of a text, which may begin with a byte order mark. -/
def sections? (s : List Char) : Option (List Section) :=
  let s := match s with
    | '\ufeff' :: rest => rest
    | s => s
  sectionsFrom? (s.length + 1) none [] s

/-! ## The whole text -/

/-- Enters pairs one after the other. -/
def Section.fill? (pairs : List Pair) (t : Node.Contents) : Option Node.Contents :=
  pairs.foldlM (fun t p => Node.enter? p.key p.value p.path t) t

/-- Enters a section into the tree of those before it. -/
def Section.enter? (root : Node.Contents) (s : Section) : Option Node.Contents :=
  match s.header with
  | none => fill? s.pairs root
  | some (.table path name) => Node.within? (Node.openTable? (fill? s.pairs) name) path root
  | some (.element path name) => Node.within? (Node.openElement? (fill? s.pairs) name) path root

/-- The table that a text stands for. -/
def read? (text : String) : Option Value := do
  let sections ← sections? text.toList
  let root ← sections.foldlM Section.enter? []
  return .table (Node.toValues root)

end RemotePlayback.Toml
