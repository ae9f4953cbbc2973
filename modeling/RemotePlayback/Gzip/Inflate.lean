import RemotePlayback.Bytes

/-!
The compressed data format of gzip members.

The data are a sequence of blocks, each stored as it is or written in prefix codes, fixed or sent
along with the block. Bits are taken from the lowest of a byte upwards. A code symbol is a byte, the
end of the block, or a stretch of earlier output to copy. The output is an array, since copying
looks back into it by position.
-/

namespace RemotePlayback.Gzip

/-- A place in the input: the bits of a byte begun that are still to come, and the bytes after it.
-/
structure BitSource where
  held : Nat
  count : Nat
  rest : Bytes

namespace BitSource

/-- The beginning of a byte string. -/
def ofBytes (b : Bytes) : BitSource := ⟨0, 0, b⟩

/-- Takes one bit. -/
def bit? (s : BitSource) : Option (Nat × BitSource) :=
  match s.count, s.rest with
  | 0, [] => none
  | 0, b :: rest => some (b.toNat % 2, ⟨b.toNat / 2, 7, rest⟩)
  | count + 1, rest => some (s.held % 2, ⟨s.held / 2, count, rest⟩)

/-- Takes a number of bits, the lowest first. -/
def bits? : (n : Nat) → BitSource → Option (Nat × BitSource)
  | 0, s => some (0, s)
  | n + 1, s =>
    match s.bit? with
    | none => none
    | some (b, s) =>
      match bits? n s with
      | none => none
      | some (high, s) => some (b + 2 * high, s)

end BitSource

/-! ## Prefix codes -/

/-- A canonical code: how many symbols have each length from one on, and the symbols in order. -/
structure Code where
  counts : List Nat
  symbols : Array Nat

namespace Code

/-- The greatest length of a code word. -/
def maxLength : Nat := 15

/-- The code whose words have the given lengths; zero means that a symbol has no word. -/
def ofLengths (lengths : List Nat) : Code :=
  let indexed := lengths.zipIdx
  let ofLength (n : Nat) : List Nat := (indexed.filter fun e => e.1 == n).map (·.2)
  let groups := (List.range maxLength).map fun i => ofLength (i + 1)
  ⟨groups.map List.length, groups.flatten.toArray⟩

/-- The share of all patterns that the words take up, in units of the shortest possible share. -/
def share (c : Code) : Nat :=
  c.counts.zipIdx.foldl (fun n e => n + e.1 * 2 ^ (maxLength - 1 - e.2)) 0

/-- A code uses up all patterns exactly, unless it has at most one word. -/
def isAcceptable (c : Code) : Bool :=
  c.symbols.size ≤ 1 || c.share == 2 ^ maxLength

/-- Follows a code word bit by bit; `first` and `index` belong to the words of the next length. -/
def follow (symbols : Array Nat) : (counts : List Nat) → (word first index : Nat) → BitSource →
    Option (Nat × BitSource)
  | [], _, _, _, _ => none
  | n :: counts, word, first, index, s =>
    match s.bit? with
    | none => none
    | some (b, s) =>
      let word := word + b
      if word < first + n then (symbols[index + (word - first)]?).map (·, s)
      else follow symbols counts (2 * word) (2 * (first + n)) (index + n) s

/-- Takes the next symbol. -/
def symbol? (c : Code) (s : BitSource) : Option (Nat × BitSource) :=
  follow c.symbols c.counts 0 0 0 s

end Code

/-! ## Blocks -/

/-- Base length and number of extra bits of the symbols for lengths. -/
def lengthRules : Array (Nat × Nat) :=
  #[(3, 0), (4, 0), (5, 0), (6, 0), (7, 0), (8, 0), (9, 0), (10, 0), (11, 1), (13, 1), (15, 1),
    (17, 1), (19, 2), (23, 2), (27, 2), (31, 2), (35, 3), (43, 3), (51, 3), (59, 3), (67, 4),
    (83, 4), (99, 4), (115, 4), (131, 5), (163, 5), (195, 5), (227, 5), (258, 0)]

/-- Base distance and number of extra bits of the symbols for distances. -/
def distanceRules : Array (Nat × Nat) :=
  #[(1, 0), (2, 0), (3, 0), (4, 0), (5, 1), (7, 1), (9, 2), (13, 2), (17, 3), (25, 3), (33, 4),
    (49, 4), (65, 5), (97, 5), (129, 6), (193, 6), (257, 7), (385, 7), (513, 8), (769, 8),
    (1025, 9), (1537, 9), (2049, 10), (3073, 10), (4097, 11), (6145, 11), (8193, 12), (12289, 12),
    (16385, 13), (24577, 13)]

/-- A number given by a rule and extra bits. -/
def ruled? (rules : Array (Nat × Nat)) (i : Nat) (s : BitSource) : Option (Nat × BitSource) :=
  match rules[i]? with
  | none => none
  | some (base, extra) => (s.bits? extra).map fun r => (base + r.1, r.2)

/-- Copies bytes from a distance back, one after the other, so that a copy may overlap itself. -/
def copyBack (out : Array UInt8) (distance : Nat) : (length : Nat) → Array UInt8
  | 0 => out
  | length + 1 => copyBack (out.push (out[out.size - distance]?.getD 0)) distance length

/-- The number of bits still to come, which bounds the number of symbols. -/
def BitSource.remaining (s : BitSource) : Nat := s.count + 8 * s.rest.length

/-- Takes symbols until the end of the block. -/
def symbols? (literals distances : Code) : (fuel : Nat) → BitSource → Array UInt8 →
    Option (Array UInt8 × BitSource)
  | 0, _, _ => none
  | fuel + 1, s, out =>
    match literals.symbol? s with
    | none => none
    | some (sym, s) =>
      if sym < 256 then symbols? literals distances fuel s (out.push (UInt8.ofNat sym))
      else if sym = 256 then some (out, s)
      else
        match ruled? lengthRules (sym - 257) s with
        | none => none
        | some (length, s) =>
          match distances.symbol? s with
          | none => none
          | some (d, s) =>
            match ruled? distanceRules d s with
            | none => none
            | some (distance, s) =>
              if out.size < distance then none
              else symbols? literals distances fuel s (copyBack out distance length)

/-- The lengths of the fixed code for bytes and lengths. -/
def fixedLiterals : List Nat :=
  List.replicate 144 8 ++ List.replicate 112 9 ++ List.replicate 24 7 ++ List.replicate 8 8

/-- The lengths of the fixed code for distances. -/
def fixedDistances : List Nat := List.replicate 30 5

/-- The order in which the lengths of the code for lengths are sent. -/
def lengthOrder : List Nat := [16, 17, 18, 0, 8, 7, 9, 6, 10, 5, 11, 4, 12, 3, 13, 2, 14, 1, 15]

/-- Takes `n` numbers of three bits. -/
def threeBits? : (n : Nat) → BitSource → Option (List Nat × BitSource)
  | 0, s => some ([], s)
  | n + 1, s =>
    match s.bits? 3 with
    | none => none
    | some (x, s) => (threeBits? n s).map fun r => (x :: r.1, r.2)

/-- Takes the lengths of two codes, written in a code of their own with repetitions. -/
def lengths? (code : Code) (wanted : Nat) : (fuel : Nat) → BitSource → Array Nat →
    Option (Array Nat × BitSource)
  | 0, _, _ => none
  | fuel + 1, s, out =>
    if wanted ≤ out.size then (if out.size = wanted then some (out, s) else none)
    else
      match code.symbol? s with
      | none => none
      | some (sym, s) =>
        if sym < 16 then lengths? code wanted fuel s (out.push sym)
        else
          let repeated? : Option (Nat × Nat × BitSource) :=
            if sym = 16 then
              match out.back? with
              | none => none
              | some x => (s.bits? 2).map fun r => (x, 3 + r.1, r.2)
            else if sym = 17 then (s.bits? 3).map fun r => (0, 3 + r.1, r.2)
            else (s.bits? 7).map fun r => (0, 11 + r.1, r.2)
          match repeated? with
          | none => none
          | some (x, n, s) => lengths? code wanted fuel s (out ++ Array.replicate n x)

/-- The two codes sent with a block. -/
def sentCodes? (s : BitSource) : Option (Code × Code × BitSource) := do
  let (hlit, s) ← s.bits? 5
  let (hdist, s) ← s.bits? 5
  let (hclen, s) ← s.bits? 4
  let literalCount := hlit + 257
  let distanceCount := hdist + 1
  if 286 < literalCount ∨ 30 < distanceCount then none else pure ()
  let (short, s) ← threeBits? (hclen + 4) s
  let sent := lengthOrder.zip short
  let codeLengths := (List.range 19).map fun i => ((sent.find? (·.1 == i)).map (·.2)).getD 0
  let lengthCode := Code.ofLengths codeLengths
  if lengthCode.isAcceptable then pure () else none
  let wanted := literalCount + distanceCount
  let (lengths, s) ← lengths? lengthCode wanted (wanted + 1) s #[]
  let literals := Code.ofLengths (lengths.toList.take literalCount)
  let distances := Code.ofLengths (lengths.toList.drop literalCount)
  if literals.isAcceptable ∧ distances.isAcceptable then return (literals, distances, s) else none

/-- Takes a stored block: two lengths that are complements, and the bytes. -/
def stored? (rest : Bytes) (out : Array UInt8) : Option (Array UInt8 × BitSource) :=
  match rest with
  | a :: b :: c :: d :: rest =>
    let n := Bytes.littleEndian [a, b]
    if n + Bytes.littleEndian [c, d] = 65535 then
      match Bytes.take? n rest with
      | some (data, rest) => some (out ++ data.toArray, BitSource.ofBytes rest)
      | none => none
    else none
  | _ => none

/-- Takes blocks up to the last one; each takes at least three bits. -/
def blocks? : (fuel : Nat) → BitSource → Array UInt8 → Option (Array UInt8 × BitSource)
  | 0, _, _ => none
  | fuel + 1, s, out =>
    match s.bits? 1 with
    | none => none
    | some (last, s) =>
      match s.bits? 2 with
      | none => none
      | some (kind, s) =>
        let block? : Option (Array UInt8 × BitSource) :=
          if kind = 0 then stored? s.rest out
          else if kind = 1 then
            symbols? (Code.ofLengths fixedLiterals) (Code.ofLengths fixedDistances)
              (s.remaining + 1) s out
          else if kind = 2 then
            match sentCodes? s with
            | some (literals, distances, s) => symbols? literals distances (s.remaining + 1) s out
            | none => none
          else none
        match block? with
        | none => none
        | some (out, s) => if last = 1 then some (out, s) else blocks? fuel s out

/-- The data that a byte string begins with, and the bytes after it. -/
def inflate? (b : Bytes) : Option (Bytes × Bytes) :=
  (blocks? (8 * b.length + 1) (BitSource.ofBytes b) #[]).map fun r => (r.1.toList, r.2.rest)

end RemotePlayback.Gzip
