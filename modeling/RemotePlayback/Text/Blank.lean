/-!
Blank characters, visible ones, and the cutting of texts.

The blanks are the characters with the Unicode property White_Space. `trim` cuts them off at both
ends; what it leaves neither begins nor ends with one, so trimming twice is trimming once.
-/

namespace RemotePlayback.Text

/-- The Unicode property White_Space. -/
def isBlank (c : Char) : Bool :=
  let n := c.val
  (0x09 ≤ n && n ≤ 0x0D) || n == 0x20 || n == 0x85 || n == 0xA0 || n == 0x1680 ||
    (0x2000 ≤ n && n ≤ 0x200A) || n == 0x2028 || n == 0x2029 || n == 0x202F ||
    n == 0x205F || n == 0x3000

/-- Any character of a line; the tab is the only control among them. -/
def isVisible (c : Char) : Bool := c = '\t' || (0x20 ≤ c.toNat && c.toNat ≠ 0x7F)

/-- Cuts leading characters of a class off. -/
def dropStart (p : Char → Bool) (cs : List Char) : List Char := cs.dropWhile p

/-- Cuts trailing characters of a class off. -/
def dropEnd (p : Char → Bool) (cs : List Char) : List Char := (cs.reverse.dropWhile p).reverse

/-- Cuts the blanks off at both ends. -/
def trim (cs : List Char) : List Char := dropEnd isBlank (dropStart isBlank cs)

/-- A URL without the slashes at its end. -/
def trimSlashes (url : String) : String := String.ofList (dropEnd (· = '/') url.toList)

/-- A text of blanks only, the empty one included. -/
def isAllBlank (s : String) : Bool := s.toList.all isBlank

/-- What follows a beginning, if the list begins so. -/
def stripStart? : (start : List Char) → List Char → Option (List Char)
  | [], cs => some cs
  | _ :: _, [] => none
  | a :: start, c :: cs => if a = c then stripStart? start cs else none

theorem stripStart?_eq_some_iff {start cs rest : List Char} :
    stripStart? start cs = some rest ↔ cs = start ++ rest := by
  induction start generalizing cs with
  | nil => simp [stripStart?, eq_comm]
  | cons a start ih =>
    cases cs with
    | nil => simp [stripStart?]
    | cons c cs =>
      by_cases h : a = c
      · simp [stripStart?, h, ih]
      · have h' : ¬ c = a := fun e => h e.symm
        simp [stripStart?, h, h']

/-- Whether a text begins with another. -/
def startsWith (start s : String) : Bool := (stripStart? start.toList s.toList).isSome

/-- Whether a text ends with another. -/
def endsWith (last s : String) : Bool :=
  (stripStart? last.toList.reverse s.toList.reverse).isSome

theorem startsWith_iff {start s : String} :
    startsWith start s = true ↔ start.toList <+: s.toList := by
  rw [startsWith, Option.isSome_iff_exists]
  exact exists_congr fun rest => stripStart?_eq_some_iff.trans eq_comm

theorem endsWith_iff {last s : String} :
    endsWith last s = true ↔ last.toList <:+ s.toList := by
  rw [endsWith, Option.isSome_iff_exists, ← List.reverse_prefix]
  exact exists_congr fun rest => stripStart?_eq_some_iff.trans eq_comm

/-- The part before the first separator and, if there is one, the part after it. -/
def cutAt (sep : Char) : List Char → List Char × Option (List Char)
  | [] => ([], none)
  | c :: cs =>
    if c = sep then ([], some cs)
    else ((c :: (cutAt sep cs).1), (cutAt sep cs).2)

/-- The parts between all separators; there is one more part than separators. -/
def splitAll (sep : Char) : List Char → List (List Char)
  | [] => [[]]
  | c :: cs =>
    if c = sep then [] :: splitAll sep cs
    else match splitAll sep cs with
      | [] => [[c]]
      | part :: parts => (c :: part) :: parts

theorem splitAll_append {sep : Char} {part : List Char} (whole : sep ∉ part) (rest : List Char) :
    splitAll sep (part ++ sep :: rest) = part :: splitAll sep rest := by
  induction part with
  | nil => rw [List.nil_append, splitAll, if_pos rfl]
  | cons c part ih =>
    have other : ¬c = sep := (List.ne_of_not_mem_cons whole).symm
    rw [List.cons_append, splitAll, if_neg other, ih (List.not_mem_of_not_mem_cons whole)]

theorem splitAll_of_not_mem {sep : Char} {part : List Char} (whole : sep ∉ part) :
    splitAll sep part = [part] := by
  induction part with
  | nil => rfl
  | cons c part ih =>
    have other : ¬c = sep := (List.ne_of_not_mem_cons whole).symm
    rw [splitAll, if_neg other, ih (List.not_mem_of_not_mem_cons whole)]

/-- Equality up to the case of ASCII letters. -/
def equalsIgnoringCase (s t : String) : Bool :=
  s.toList.map Char.toLower == t.toList.map Char.toLower

/-- The empty text counts as absent. -/
def nonEmpty? (s : String) : Option String := if s = "" then none else some s

end RemotePlayback.Text
