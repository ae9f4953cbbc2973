import RemotePlayback.Bytes
import RemotePlayback.Text.Blank

/-!
What a client asks a server for when it is given a URL.

The target of a request is the path of the URL and its query. Segments that go nowhere or up are
resolved, and characters that may not stand in a target are written as percent escapes of their
bytes.
-/

namespace RemotePlayback.Text

/-- A byte as a percent escape. -/
def percentEscape (b : UInt8) : List Char :=
  let digit (n : Nat) : Char := (Nat.digitChar n).toUpper
  ['%', digit (b.toNat / 16), digit (b.toNat % 16)]

/-- Escapes the characters of a class, and all that are not visible ASCII. -/
def escapePercents (reserved : List Char) (s : List Char) : List Char :=
  s.flatMap fun c =>
    if c.toNat ≤ 0x20 ∨ 0x7F ≤ c.toNat ∨ c ∈ reserved then
      (String.utf8EncodeChar c).flatMap percentEscape
    else [c]

/-- The characters that are escaped in a path. -/
def reservedInPath : List Char := ['"', '#', '<', '>', '?', '\x60', '\x7b', '\x7d']

/-- The characters that are escaped in a query. -/
def reservedInQuery : List Char := ['"', '#', '<', '>', '\'']

/-- Whether a segment stands for where it is; the dot may be escaped. -/
def isHere (segment : List Char) : Bool :=
  let s := String.ofList (segment.map Char.toLower)
  s == "." || s == "%2e"

/-- Whether a segment stands for one level up; the dots may be escaped. -/
def isUp (segment : List Char) : Bool :=
  let s := String.ofList (segment.map Char.toLower)
  s == ".." || s == "%2e." || s == ".%2e" || s == "%2e%2e"

/-- Resolves segments that go nowhere or up; `before` are those so far, the last one first. -/
def resolveSegments : (before : List (List Char)) → List (List Char) → List (List Char)
  | before, [] => before.reverse
  | before, s :: rest =>
    if isUp s then
      if rest = [] then ([] :: before.drop 1).reverse else resolveSegments (before.drop 1) rest
    else if isHere s then
      if rest = [] then ([] :: before).reverse else resolveSegments before rest
    else resolveSegments (s :: before) rest

/-- A path with its segments resolved and escaped. -/
def normalPath (path : List Char) : List Char :=
  let path := path.map fun c => if c = '\\' then '/' else c
  let segments := match splitAll '/' path with
    | [] :: segments => segments
    | segments => segments
  (resolveSegments [] segments).flatMap fun s => '/' :: escapePercents reservedInPath s

/-- What follows the host of a URL. -/
def afterHost (url : List Char) : List Char :=
  let rec afterScheme : List Char → List Char
    | ':' :: '/' :: '/' :: rest => rest
    | _ :: rest => afterScheme rest
    | [] => []
  (afterScheme url).dropWhile fun c => c ≠ '/' && c ≠ '?' && c ≠ '#' && c ≠ '\\'

/-- The target of a request for a URL. -/
def target (url : String) : String :=
  let tail := afterHost (url.toList.filter fun c => c ≠ '\t' && c ≠ '\n' && c ≠ '\r')
  let tail := tail.takeWhile (· ≠ '#')
  match cutAt '?' tail with
  | (path, none) => String.ofList (normalPath path)
  | (path, some query) =>
    String.ofList (normalPath path ++ '?' :: escapePercents reservedInQuery query)

end RemotePlayback.Text
