import RemotePlayback.Backend.State
import RemotePlayback.Proofs.Cluster.RoundTrip
import RemotePlayback.Proofs.Gzip.RoundTrip

/-! The cluster that a report is answered with.

The backend may send it plain or compressed, and need not say which. Whoever reads the answer tells
the two apart by the first bytes: a message cannot begin with the bytes that begin compressed data,
since they would be a key of a kind that there is not. -/

namespace RemotePlayback.Backend

open Wire Cluster Gzip

variable {r : Response} {raw s : Bytes} {c : State}

/-! ## First bytes -/

/-- The first byte of compressed data is no key. -/
theorem readKey?_magic (rest : Bytes) : readKey? (0x1F :: rest) = none := by
  have number : Varint.read? (0x1F :: rest) = some (31, rest) := rfl
  rw [readKey?, number]
  rfl

/-- **No message begins like compressed data**, whatever its type. -/
theorem not_magic_of_decode? {σ : Type} [Message σ] {m : σ} (decoded : decode? s = some m) :
    ¬magic <+: s := by
  rintro ⟨rest, rfl⟩
  rw [decode?, decodeAt?, magic, List.cons_append, mergeAll?] at decoded
  split at decoded
  · cases decoded
  · rename_i read
    cases (readKey?_magic _).symm.trans read

/-- What begins like compressed data counts as compressed. -/
theorem isCompressed_of_magic (begins : magic <+: r.body) : isCompressed r = true := by
  obtain ⟨rest, whole⟩ := begins
  rw [isCompressed, ← whole]
  exact Bool.or_true _

/-- What neither is said to be compressed nor begins so does not count as compressed. -/
theorem isCompressed_eq_false (unmarked : findHeader? "content-encoding" r.headers ≠ some "gzip")
    (plain : ¬magic <+: r.body) : isCompressed r = false := by
  rw [isCompressed, beq_false_of_ne unmarked, Bool.false_or]
  split
  · rename_i rest whole
    exact absurd ⟨rest, whole.symm⟩ plain
  · rfl

/-! ## Deliveries -/

/-- **The ways to deliver a byte string** in a response: as it is, unless the response says that it
is compressed, or as compressed data of any writer, where the response may say so or not. -/
inductive Delivers (r : Response) (raw : Bytes) : Prop where
  | plain (unmarked : findHeader? "content-encoding" r.headers ≠ some "gzip") (same : r.body = raw)
  | compressed (packed : gunzip? r.body = some raw)

/-- What is delivered is what is decoded. -/
theorem reportAnswer_of_delivers (success : r.isSuccess = true) (delivers : Delivers r raw)
    (decoded : decode? raw = some c) : reportAnswer r = .ok c := by
  rw [reportAnswer, success, Bool.not_true, if_neg Bool.false_ne_true]
  cases delivers with
  | plain unmarked same =>
    have bare : isCompressed r = false := by
      apply isCompressed_eq_false unmarked
      rw [same]
      exact not_magic_of_decode? decoded
    rw [bare, if_neg Bool.false_ne_true, same]
    simp only [decoded]
  | compressed packed =>
    rw [isCompressed_of_magic (magic_of_gunzip? packed), if_pos rfl, packed]
    simp only [decoded]

/-- **A cluster arrives whichever way it is delivered**: from every successful response that
delivers an encoding of it, plain or compressed, said to be compressed or not, the very cluster is
read, where a speed of negative zero is read as zero. No plain encoding is ever taken for compressed
data. -/
theorem cluster_arrives (c : State) (raw : Bytes) (encodes : Encodes .none c raw)
    (short : raw.length < 2 ^ 64) :
    (∀ r : Response, r.isSuccess = true → Delivers r raw → reportAnswer r = .ok c.settled) ∧
      ¬magic <+: raw := by
  have decoded : decode? raw = some c.settled := (roundTrips (by decide)).decode c raw encodes short
  exact ⟨fun r success delivers => reportAnswer_of_delivers success delivers decoded,
    not_magic_of_decode? decoded⟩

/-- The same cluster, delivered plain, marked as compressed, and compressed without a mark. -/
theorem phone_arrives_each_way :
    let phone : State := { activeDeviceId := "phone" }
    let packed : Bytes := gzip (encode phone)
    reportAnswer ⟨200, [], encode phone⟩ = .ok phone ∧
      reportAnswer ⟨200, [("content-encoding", "gzip")], packed⟩ = .ok phone ∧
      reportAnswer ⟨201, [], packed⟩ = .ok phone := by
  intro phone packed
  obtain ⟨arrives, -⟩ := cluster_arrives phone (encode phone) (encodes_encode .none phone)
    (by decide +kernel)
  have unpacked : gunzip? packed = some (encode phone) := gunzip?_gzip (encode phone)
  exact ⟨arrives _ rfl (.plain (by decide) rfl), arrives _ rfl (.compressed unpacked),
    arrives _ rfl (.compressed unpacked)⟩

end RemotePlayback.Backend
