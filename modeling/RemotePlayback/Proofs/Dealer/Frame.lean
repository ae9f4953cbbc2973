import RemotePlayback.Dealer.Frame
import RemotePlayback.Proofs.Json.RoundTrip

/-! What the frames of the dealer say.

A request names the key under which it wants its reply, and is replied to by its URI if it names
none. What is sent in reply is a JSON text that is read back as what it was made of, whatever
characters the key has. -/

namespace RemotePlayback.Dealer

/-- What a reply says. -/
def replyValue (key : String) (success : Bool) : Json :=
  .ofMembers [("type", .string "reply"), ("key", .string key),
    ("payload", .ofMembers [("success", .string (if success then "true" else "false"))])]

/-- **A reply is read back as what it says.** -/
theorem parse?_replyText (key : String) (success : Bool) :
    Json.parse? (Bytes.ofText (replyText key success)) = some (replyValue key success) := by
  refine Json.parse?_bytes (v := replyValue key success) (Json.readable_ofMembers ?_)
  simp only [List.forall_mem_cons, Json.Readable, true_and]
  refine ⟨Json.readable_ofMembers ?_, List.forall_mem_nil _⟩
  simp [Json.Readable]

theorem parse?_pingText :
    Json.parse? (Bytes.ofText pingText) = some (.ofMembers [("type", .string "ping")]) := by
  refine Json.parse?_bytes (v := .ofMembers [("type", .string "ping")]) (Json.readable_ofMembers ?_)
  simp [Json.Readable]

/-- A reply is not taken for a ping. -/
theorem replyText_ne_pingText (key : String) (success : Bool) :
    replyText key success ≠ pingText := by
  intro same
  have said : some (replyValue key success) = some (.ofMembers [("type", .string "ping")]) := by
    rw [← parse?_replyText, same, parse?_pingText]
  have keyed : Json.member? "key" (replyValue key success) = some (.string key) := by
    simp only [replyValue, Json.ofMembers, Json.member?, Entries.ofList, List.foldl_cons,
      List.foldl_nil, Entries.find?_insert]
    rfl
  rw [Option.some.inj said] at keyed
  cases keyed

namespace Frame

theorem ofMessage_ne_request {parts : Parts} {key uri : String} {headers : Headers}
    {payload : Bytes} : ofMessage parts ≠ .ok (.request key uri headers payload) := by
  unfold ofMessage
  split
  · nofun
  · split
    · nofun
    · cases messagePayload parts.payloads parts.headers <;> nofun

theorem ofRequest_eq_request {parts : Parts} {key uri : String} {headers : Headers}
    {payload : Bytes} (h : ofRequest parts = .ok (.request key uri headers payload)) :
    parts.messageIdent.or parts.uri = some uri ∧ key = parts.key.getD uri := by
  have of_map {body : Except DecodeError Bytes} {key' uri' : String} {headers' : Headers}
      (h : body.map (request key' uri' headers' ·) = .ok (request key uri headers payload)) :
      key' = key ∧ uri' = uri := by
    cases body with
    | error cause => cases h
    | ok bytes =>
      cases h
      exact ⟨rfl, rfl⟩
  unfold ofRequest at h
  split at h
  · cases h
  · rename_i named
    obtain ⟨rfl, rfl⟩ := of_map h
    exact ⟨named, rfl⟩

/-- **The key of a request** is the one that it names, or else its URI. -/
theorem read_request {text key uri : String} {headers : Headers} {payload : Bytes}
    (h : read text = .ok (.request key uri headers payload)) :
    ∃ parts, Json.parseAs? Parts.read? (Bytes.ofText text) = some parts ∧
      parts.type = "request" ∧ parts.messageIdent.or parts.uri = some uri ∧
      key = parts.key.getD uri := by
  unfold read at h
  split at h
  case h_2 => cases h
  case h_1 parts parsed =>
    unfold ofParts at h
    split at h
    · exact absurd h ofMessage_ne_request
    · split at h
      · rename_i type
        exact ⟨parts, parsed, type, ofRequest_eq_request h⟩
      · split at h <;> cases h

end Frame

end RemotePlayback.Dealer
