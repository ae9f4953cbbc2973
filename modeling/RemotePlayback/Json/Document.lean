import RemotePlayback.Json.Value

/-!
JSON texts taken apart, before they are given a meaning.

A `Document` is the tree of a text: what is nested in what, with the bodies of strings and the
digits of numbers as they stand in the text. Reading one checks the grammar alone. Limits of depth
and of number size, and the pairing of surrogate escapes, belong to the values that a reader keeps
(`RemotePlayback.Json.Kept`), so a part that is skipped is never refused for them.

The reader holds the containers still open on a list of its own and moves through the text in one
pass, so the depth of a text is bounded by nothing but its length.
-/

namespace RemotePlayback.Json

/-- A text as a tree. Repeated keys stay, in the order of the text. -/
inductive Document where
  | null
  | bool (b : Bool)
  | number (n : Numeral)
  | string (body : Bytes)
  | array (items : List Document)
  | object (members : List (Bytes × Document))
  deriving Inhabited

namespace Document

/-! ## Tokens -/

/-- The four bytes of white space. -/
def isSpace (b : UInt8) : Bool := b == 0x20 || b == 0x0A || b == 0x09 || b == 0x0D

/-- Skips white space. -/
def skip (s : Bytes) : Bytes := s.dropWhile isSpace

/-- A hexadecimal digit of either case. -/
def hexValue? (b : UInt8) : Option Nat :=
  if 0x30 ≤ b ∧ b ≤ 0x39 then some (b.toNat - 0x30)
  else if 0x61 ≤ b ∧ b ≤ 0x66 then some (b.toNat - 0x61 + 10)
  else if 0x41 ≤ b ∧ b ≤ 0x46 then some (b.toNat - 0x41 + 10)
  else none

/-- What an escape by one letter stands for. -/
def letterValue? (b : UInt8) : Option UInt8 :=
  if b = 0x22 then some 0x22
  else if b = 0x5C then some 0x5C
  else if b = 0x2F then some 0x2F
  else if b = 0x62 then some 0x08
  else if b = 0x66 then some 0x0C
  else if b = 0x6E then some 0x0A
  else if b = 0x72 then some 0x0D
  else if b = 0x74 then some 0x09
  else none

/-- Four hexadecimal digits. -/
def isHex4 (a b c d : UInt8) : Bool :=
  (hexValue? a).isSome && (hexValue? b).isSome && (hexValue? c).isSome && (hexValue? d).isSome

/--
The body of a string up to its closing quote, escapes left as they are, and what follows the quote.
-/
def body? : Bytes → Option (Bytes × Bytes)
  | [] => none
  | 0x22 :: rest => some ([], rest)
  | 0x5C :: 0x75 :: a :: b :: c :: d :: rest =>
    if isHex4 a b c d then
      (body? rest).map fun r => (0x5C :: 0x75 :: a :: b :: c :: d :: r.1, r.2)
    else none
  | 0x5C :: e :: rest =>
    if (letterValue? e).isSome then (body? rest).map fun r => (0x5C :: e :: r.1, r.2) else none
  | b :: rest => if b < 0x20 ∨ b = 0x5C then none else (body? rest).map fun r => (b :: r.1, r.2)

theorem length_skip (s : Bytes) : (skip s).length ≤ s.length :=
  (List.dropWhile_sublist _).length_le

theorem length_body? {s body rest : Bytes} (h : body? s = some (body, rest)) :
    rest.length < s.length := by
  fun_induction body? s generalizing body rest with
  | case1 => simp at h
  | case2 => simp at h; simp [← h.2]
  | case3 a b c d s hex ih =>
    simp only [Option.map_eq_some_iff, Prod.exists] at h
    obtain ⟨x, y, hxy, he⟩ := h
    obtain ⟨-, rfl⟩ := Prod.mk.inj he
    have := ih hxy
    simp; omega
  | case4 => simp at h
  | case5 e s _ he ih =>
    simp only [Option.map_eq_some_iff, Prod.exists] at h
    obtain ⟨x, y, hxy, he⟩ := h
    obtain ⟨-, rfl⟩ := Prod.mk.inj he
    have := ih hxy
    simp; omega
  | case6 => simp at h
  | case7 => simp at h
  | case8 b s _ _ _ _ ih =>
    simp only [Option.map_eq_some_iff, Prod.exists] at h
    obtain ⟨x, y, hxy, he⟩ := h
    obtain ⟨-, rfl⟩ := Prod.mk.inj he
    have := ih hxy
    simp; omega

/-- What follows a fixed word. -/
def word? : (word : Bytes) → Bytes → Option Bytes
  | [], s => some s
  | _ :: _, [] => none
  | w :: word, b :: s => if w = b then word? word s else none

theorem length_word? {word s rest : Bytes} (h : word? word s = some rest) :
    rest.length ≤ s.length := by
  induction word generalizing s with
  | nil => simp [word?] at h; simp [h]
  | cons w word ih =>
    cases s with
    | nil => simp [word?] at h
    | cons b s =>
      simp only [word?] at h
      split at h
      · have := ih h; simp; omega
      · simp at h

/-- A key with its colon; the text begins after white space. -/
def key? (s : Bytes) : Option (Bytes × Bytes) :=
  match skip s with
  | 0x22 :: rest =>
    match body? rest with
    | some (key, rest) =>
      match skip rest with
      | 0x3A :: rest => some (key, rest)
      | _ => none
    | none => none
  | _ => none

theorem length_key? {s key rest : Bytes} (h : key? s = some (key, rest)) :
    rest.length < s.length := by
  unfold key? at h
  split at h
  · rename_i r₁ h₁
    split at h
    · rename_i k r₂ h₂
      split at h
      · rename_i r₃ h₃
        simp only [Option.some.injEq, Prod.mk.injEq] at h
        obtain ⟨-, rfl⟩ := h
        have a := length_skip s
        have b := length_body? h₂
        have c := length_skip r₂
        rw [h₁] at a
        rw [h₃] at c
        simp at a c
        omega
      · simp at h
    · simp at h
  · simp at h

/-! ## The reader -/

/-- A container still open: the parts read so far, the last one first. -/
inductive Frame where
  | array (items : List Document)
  | object (members : List (Bytes × Document)) (key : Bytes)

-- The equations bound in the matches are what the termination proofs use.
set_option linter.unusedVariables false

mutual

/-- Reads the value at the front of the text and goes on in the containers around it. -/
def value (stack : List Frame) (s : Bytes) : Option (Document × Bytes) :=
  match h : skip s with
  | 0x22 :: rest =>
    match hb : body? rest with
    | some (body, rest') => resume (.string body) stack rest'
    | none => none
  | 0x5B :: rest =>
    match hr : skip rest with
    | 0x5D :: rest' => resume (.array []) stack rest'
    | _ => value (.array [] :: stack) rest
  | 0x7B :: rest =>
    match hr : skip rest with
    | 0x7D :: rest' => resume (.object []) stack rest'
    | _ =>
      match hk : key? rest with
      | some (key, rest') => value (.object [] key :: stack) rest'
      | none => none
  | 0x6E :: rest =>
    match hw : word? [0x75, 0x6C, 0x6C] rest with
    | some rest' => resume .null stack rest'
    | none => none
  | 0x74 :: rest =>
    match hw : word? [0x72, 0x75, 0x65] rest with
    | some rest' => resume (.bool true) stack rest'
    | none => none
  | 0x66 :: rest =>
    match hw : word? [0x61, 0x6C, 0x73, 0x65] rest with
    | some rest' => resume (.bool false) stack rest'
    | none => none
  | s' =>
    match hn : Numeral.read? s' with
    | some (n, rest) => resume (.number n) stack rest
    | none => none
termination_by s.length
decreasing_by
  all_goals
    have hs := length_skip s
    rw [h] at hs
  any_goals simp only [List.length_cons] at hs
  · have := length_body? hb; omega
  · have := length_skip rest; rw [hr] at this; simp at this; omega
  · omega
  · have := length_skip rest; rw [hr] at this; simp at this; omega
  · have := length_key? hk; omega
  · have := length_word? hw; omega
  · have := length_word? hw; omega
  · have := length_word? hw; omega
  · have := Numeral.length_read? hn; omega

/-- Puts a finished value into the innermost open container and reads on there. -/
def resume (d : Document) (stack : List Frame) (s : Bytes) : Option (Document × Bytes) :=
  match stack with
  | [] => some (d, s)
  | .array items :: stack =>
    match h : skip s with
    | 0x2C :: rest => value (.array (d :: items) :: stack) rest
    | 0x5D :: rest => resume (.array (d :: items).reverse) stack rest
    | _ => none
  | .object members key :: stack =>
    match h : skip s with
    | 0x2C :: rest =>
      match hk : key? rest with
      | some (key', rest') => value (.object ((key, d) :: members) key' :: stack) rest'
      | none => none
    | 0x7D :: rest => resume (.object ((key, d) :: members).reverse) stack rest
    | _ => none
termination_by s.length
decreasing_by
  all_goals
    have hs := length_skip s
    rw [h] at hs
    simp only [List.length_cons] at hs
  · omega
  · omega
  · have := length_key? hk; omega
  · omega

end

/-- The document at the front of a text, and the rest. -/
def readPart? (s : Bytes) : Option (Document × Bytes) := value [] s

/-- The document that a whole text is, white space around it aside. -/
def read? (s : Bytes) : Option Document :=
  match readPart? s with
  | some (d, rest) => if skip rest = [] then some d else none
  | none => none

end Document

end RemotePlayback.Json
