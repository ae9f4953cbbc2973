import RemotePlayback.Double
import RemotePlayback.Table
import RemotePlayback.Wire.Record

/-!
Messages: structures whose fields are written as records.

A message type lists its fields, each with its number and the way its values travel (`Codec`).
Writing goes through the fields in the order of the list and leaves out values that a message has
anyway. Reading starts from the empty message and merges one record after the other: a later scalar
replaces an earlier one, parts of a nested message add up, lists and maps grow, and records of
unknown fields are skipped.
-/

namespace RemotePlayback.Wire

/-- How the values of one field travel. -/
structure Codec (τ : Type) where
  /-- The value in the empty message. -/
  initial : τ
  /-- The records of a value, none for the initial value. -/
  write : (tag : Nat) → τ → Bytes
  /-- Adds one record to the value read so far. -/
  merge : (depth : Nat) → Payload → τ → Option τ
  /-- The entries of a map are read as counted bytes, whatever kind their key names. -/
  alwaysCounted : Bool := false

/-- A field of a message type. -/
structure Field (σ : Type) where
  tag : Nat
  alwaysCounted : Bool
  write : σ → Bytes
  merge : (depth : Nat) → Payload → σ → Option σ

/-- The field with a number, a codec, and its place in the message. -/
def Field.of {σ τ : Type} (tag : Nat) (c : Codec τ) (get : σ → τ) (put : τ → σ → σ) : Field σ :=
  ⟨tag, c.alwaysCounted, fun m => c.write tag (get m), fun depth p m =>
    (c.merge depth p (get m)).map (put · m)⟩

/-- A type of messages: what is in the empty one, and the fields in the order of their numbers. -/
class Message (σ : Type) where
  empty : σ
  fields : List (Field σ)

/-- How deep messages and groups may nest, the outermost message not counted. -/
def maxDepth : Nat := 100

/-- The records of a message. -/
def encode {σ : Type} [Message σ] (m : σ) : Bytes :=
  (Message.fields : List (Field σ)).flatMap fun f => f.write m

-- The equations bound in the matches are what the termination proof uses.
set_option linter.unusedVariables false

/-- Merges the records of a byte string into a message. -/
def mergeAll? {σ : Type} (fields : List (Field σ)) (depth : Nat) (m : σ) (s : Bytes) : Option σ :=
  match s with
  | [] => some m
  | b :: s =>
    match hk : readKey? (b :: s) with
    | none => none
    | some (tag, kind, rest) =>
      match fields.find? fun f => f.tag == tag with
      | none =>
        match hs : skip? depth tag kind rest with
        | none => none
        | some rest' => mergeAll? fields depth m rest'
      | some f =>
        match hp : readPayload? (if f.alwaysCounted then .counted else kind) rest with
        | none => none
        | some (p, rest') =>
          match f.merge depth p m with
          | none => none
          | some m => mergeAll? fields depth m rest'
termination_by s.length
decreasing_by
  · have := length_readKey? hk; have := length_skip? hs; omega
  · have := length_readKey? hk; have := length_readPayload? hp; omega

/-- The message that a byte string encodes, at a depth. -/
def decodeAt? {σ : Type} [Message σ] (depth : Nat) (s : Bytes) : Option σ :=
  mergeAll? Message.fields depth Message.empty s

/-- The message that a byte string encodes. -/
def decode? {σ : Type} [Message σ] (s : Bytes) : Option σ := decodeAt? maxDepth s

/-! ## Ways to travel -/

namespace Codec

/-- A counted run of bytes as a record. -/
def writeCounted (tag : Nat) (b : Bytes) : Bytes :=
  writeKey tag .counted ++ Varint.write b.length ++ b

/-- A number that travels as a varint of 64 bits; zero is not written. -/
def ofWord {τ : Type} [DecidableEq τ] (zero : τ) (word : τ → UInt64) (value : UInt64 → τ) :
    Codec τ where
  initial := zero
  write tag x :=
    if x = zero then [] else writeKey tag .varint ++ Varint.write (word x).toNat
  merge _ p _ :=
    match p with
    | .varint n => some (value (UInt64.ofNat n))
    | _ => none

/-- Signed numbers of 64 bits, by their two's complement. -/
def int64 : Codec Int64 := ofWord 0 Int64.toUInt64 UInt64.toInt64

/-- Signed numbers of 32 bits, extended to 64 bits; the upper half is dropped in reading. -/
def int32 : Codec Int32 :=
  ofWord 0 (fun x => x.toInt64.toUInt64) (fun w => w.toUInt32.toInt32)

/-- Natural numbers of 64 bits. -/
def uint64 : Codec UInt64 := ofWord 0 id id

/-- Natural numbers of 32 bits; the upper half is dropped in reading. -/
def uint32 : Codec UInt32 := ofWord 0 UInt32.toUInt64 UInt64.toUInt32

/-- Truth values; any number but zero is true. -/
def bool : Codec Bool := ofWord false Bool.toUInt64 (fun w => w != 0)

/-- Doubles by their bits; neither zero is written. -/
def double : Codec Double where
  initial := ⟨0⟩
  write tag d :=
    if d.bits = 0 ∨ d.bits = 0x8000000000000000 then []
    else writeKey tag .fixed64 ++ Bytes.ofLittleEndian 8 d.bits.toNat
  merge _ p _ :=
    match p with
    | .fixed64 n => some ⟨UInt64.ofNat n⟩
    | _ => none

/-- Texts in UTF-8. -/
def text : Codec String where
  initial := ""
  write tag s := if s = "" then [] else writeCounted tag (Bytes.ofText s)
  merge _ p _ :=
    match p with
    | .counted b => Bytes.toText? b
    | _ => none

/-- A list of texts, one record each. -/
def texts : Codec (List String) where
  initial := []
  write tag l := l.flatMap fun s => writeCounted tag (Bytes.ofText s)
  merge _ p l :=
    match p with
    | .counted b => (Bytes.toText? b).map fun s => l ++ [s]
    | _ => none

/-- A nested message or none; further records are merged into the message. -/
def message {σ : Type} [Message σ] : Codec (Option σ) where
  initial := none
  write tag m :=
    match m with
    | none => []
    | some m => writeCounted tag (encode m)
  merge depth p m :=
    match p, depth with
    | .counted b, depth + 1 =>
      (mergeAll? Message.fields depth (m.getD Message.empty) b).map some
    | _, _ => none

/-- A list of messages, one record each. -/
def messages {σ : Type} [Message σ] : Codec (List σ) where
  initial := []
  write tag l := l.flatMap fun m => writeCounted tag (encode m)
  merge depth p l :=
    match p, depth with
    | .counted b, depth + 1 => (decodeAt? depth b).map fun m => l ++ [m]
    | _, _ => none

/-- The fields of a map's entry: the key and the value. -/
def entryFields {τ : Type} (c : Codec τ) : List (Field (String × τ)) :=
  [Field.of 1 text (·.1) (fun k e => (k, e.2)), Field.of 2 c (·.2) (fun v e => (e.1, v))]

/-- A map, one record for each entry; a later entry of a key replaces an earlier one. -/
def table {τ : Type} (c : Codec τ) : Codec (Table τ) where
  initial := Table.empty
  write tag t := t.entries.flatMap fun e =>
    writeCounted tag ((entryFields c).flatMap fun f => f.write e)
  merge depth p t :=
    match p, depth with
    | .counted b, depth + 1 =>
      (mergeAll? (entryFields c) depth ("", c.initial) b).map fun e => t.insert e.1 e.2
    | _, _ => none
  alwaysCounted := true

/-- A message as the value of a map's entry; the empty message is not written. -/
def entryMessage {σ : Type} [Message σ] [DecidableEq σ] : Codec σ where
  initial := Message.empty
  write tag m := if m = Message.empty then [] else writeCounted tag (encode m)
  merge depth p m :=
    match p, depth with
    | .counted b, depth + 1 => mergeAll? Message.fields depth m b
    | _, _ => none

end Codec

end RemotePlayback.Wire
