import RemotePlayback.Gzip.Checksum
import RemotePlayback.Gzip.Inflate

/-!
The gzip file format: a header, compressed data, and a trailer with check value and length.

Reading takes the first member and ignores what follows it. The optional parts of the header are
skipped, its own check value is compared when there is one. Writing stores the data uncompressed in
blocks, which every reader accepts.
-/

namespace RemotePlayback.Gzip

/-- The two bytes that every member begins with. -/
def magic : Bytes := [0x1F, 0x8B]

/-- How long a text in the header may be. -/
def maxText : Nat := 65535

/-- What follows the zero byte that ends a text in the header, after at most so many others. -/
def skipText? : (left : Nat) → Bytes → Option Bytes
  | _, [] => none
  | _, 0 :: rest => some rest
  | 0, _ :: _ => none
  | left + 1, _ :: rest => skipText? left rest

/-- Skips an optional part of the header. -/
def skipIf (present : Bool) (skip? : Bytes → Option Bytes) (s : Bytes) : Option Bytes :=
  if present then skip? s else some s

/-- Skips the extra field, which begins with its length. -/
def skipExtra? : Bytes → Option Bytes
  | a :: b :: rest => (Bytes.take? (Bytes.littleEndian [a, b]) rest).map (·.2)
  | _ => none

/-- Checks the lowest two bytes of the check value of the header before them. -/
def skipHeaderCheck? (whole : Bytes) : Bytes → Option Bytes
  | s@(a :: b :: rest) =>
    let read := whole.take (whole.length - s.length)
    if Bytes.littleEndian [a, b] = (checksum read).toNat % 65536 then some rest else none
  | _ => none

/-- What follows the header of a member. -/
def skipHeader? (whole : Bytes) : Option Bytes :=
  match whole with
  | 0x1F :: 0x8B :: 8 :: flags :: _ :: _ :: _ :: _ :: _ :: _ :: rest =>
    let flag (bit : UInt8) : Bool := flags &&& bit != 0
    if flag 0xE0 then none
    else do
      let s ← skipIf (flag 4) skipExtra? rest
      let s ← skipIf (flag 8) (skipText? maxText) s
      let s ← skipIf (flag 16) (skipText? maxText) s
      skipIf (flag 2) (skipHeaderCheck? whole) s
  | _ => none

/-- The data of the first member. -/
def gunzip? (b : Bytes) : Option Bytes := do
  let s ← skipHeader? b
  let (data, s) ← inflate? s
  let (trailer, _) ← Bytes.take? 8 s
  if Bytes.littleEndian (trailer.take 4) = (checksum data).toNat ∧
      Bytes.littleEndian (trailer.drop 4) = data.length % 2 ^ 32 then
    return data
  else none

/-! ## Writing -/

/-- The greatest number of bytes in a stored block. -/
def maxStored : Nat := 65535

/-- A stored block. -/
def storedBlock (last : Bool) (data : Bytes) : Bytes :=
  (if last then 1 else 0) :: (Bytes.ofLittleEndian 2 data.length ++
    Bytes.ofLittleEndian 2 (maxStored - data.length) ++ data)

/-- The data in stored blocks. -/
def storedBlocks (data : Bytes) : Bytes :=
  if data.length ≤ maxStored then storedBlock true data
  else storedBlock false (data.take maxStored) ++ storedBlocks (data.drop maxStored)
termination_by data.length
decreasing_by
  have : 0 < maxStored := by decide
  rw [List.length_drop]
  omega

/-- The header without optional parts. -/
def header : Bytes := [0x1F, 0x8B, 8, 0, 0, 0, 0, 0, 0, 0xFF]

/-- A member with the given data. -/
def gzip (data : Bytes) : Bytes :=
  header ++ storedBlocks data ++ Bytes.ofLittleEndian 4 (checksum data).toNat ++
    Bytes.ofLittleEndian 4 data.length

end RemotePlayback.Gzip
