import RemotePlayback.Dealer.Frame
import RemotePlayback.Proofs.Json.Records

/-! The parts of a frame are read from its text.

What a frame is depends on its parts alone, and many texts have the same parts: members may come in
any order and others may stand among them. For the compact texts of a message and of a request this
says which parts they have. -/

namespace RemotePlayback.Dealer.Frame

open Json Json.Document

/-- **What a text says**: the parts of the frame that it is. -/
def HasParts (text : String) (parts : Parts) : Prop :=
  parseAs? Parts.read? (Bytes.ofText text) = some parts

theorem HasParts.read {text : String} {parts : Parts} (parsed : HasParts text parts) :
    Frame.read text = ofParts parts := by
  rw [Frame.read, parsed]

/-- What is read of a frame is looked up among its members. -/
theorem parseAs?_ofMembers {ms : List (String × Json)} (readable : ∀ m ∈ ms, Readable 126 m.2) :
    parseAs? Parts.read? (Json.ofMembers ms).bytes = (do
      let fields := Entries.ofList ms
      let type ← field? fields "type" none Json.text?
      let uri ← field? fields "uri" (some none) fun v => optional? text? 126 (ofValue v)
      let key ← field? fields "key" (some none) fun v => optional? text? 126 (ofValue v)
      let messageIdent ←
        field? fields "message_ident" (some none) fun v => optional? text? 126 (ofValue v)
      let headers ←
        field? fields "headers" (some Table.empty) fun v => table? text? 126 (ofValue v)
      let payloads ← field? fields "payloads" (some []) fun v => list? value? 126 (ofValue v)
      let payload ← field? fields "payload" (some none) fun v => optional? value? 126 (ofValue v)
      return ⟨type, uri, key, messageIdent, headers, payloads, payload⟩) := by
  obtain ⟨r, record, fields⟩ := record?_ofValue
    ["type", "uri", "key", "message_ident", "headers", "payloads", "payload"] 126
    (Entries.sorted_ofList ms)
  have document : read? (Json.ofMembers ms).bytes = some (ofValue (Json.ofMembers ms)) :=
    read?_bytes (readable_ofMembers readable)
  rw [parseAs?, document, Option.bind_some, maxDepth, Parts.read?, Json.ofMembers, record,
    Option.bind_eq_bind, Option.bind_some, fields (by decide), fields (by decide),
    fields (by decide), fields (by decide), fields (by decide), fields (by decide),
    fields (by decide)]
  simp only [text?_ofValue]

/-! ## Messages -/

/-- The text of a message. -/
def messageText (uri : String) (headers : Headers) (payloads : List Json) : String :=
  (Json.ofMembers [("type", .string "message"), ("uri", .string uri), ("headers", ofTexts headers),
    ("payloads", .array payloads)]).text

/-- The parts of a message. -/
def messageParts (uri : String) (headers : Headers) (payloads : List Json) : Parts :=
  ⟨"message", some uri, none, none, headers, payloads, none⟩

/-- **The text of a message has its parts.** -/
theorem hasParts_messageText {uri : String} {headers : Headers} {payloads : List Json}
    (readable : ItemsReadable 125 payloads) :
    HasParts (messageText uri headers payloads) (messageParts uri headers payloads) := by
  have values : ∀ m ∈ [("type", Json.string "message"), ("uri", .string uri),
      ("headers", ofTexts headers), ("payloads", .array payloads)], Readable 126 m.2 := by
    simp only [List.forall_mem_cons, List.not_mem_nil, false_imp_iff, implies_true, and_true]
    exact ⟨trivial, trivial, readable_ofTexts _ _, readable⟩
  refine (parseAs?_ofMembers values).trans ?_
  simp [field?, Entries.ofList, Entries.find?_insert, Entries.find?, Json.text?, table?_ofTexts,
    list?_array readable, messageParts]

/-! ## Requests -/

/-- The text of a request. -/
def requestText (key ident : String) (headers : Headers) (payload : Json) : String :=
  (Json.ofMembers [("type", .string "request"), ("key", .string key),
    ("message_ident", .string ident), ("headers", ofTexts headers), ("payload", payload)]).text

/-- The parts of a request. -/
def requestParts (key ident : String) (headers : Headers) (payload : Json) : Parts :=
  ⟨"request", none, some key, some ident, headers, [], some payload⟩

/-- **The text of a request has its parts.** -/
theorem hasParts_requestText {key ident : String} {headers : Headers} {payload : Json}
    (readable : Readable 126 payload) (there : payload ≠ .null) :
    HasParts (requestText key ident headers payload) (requestParts key ident headers payload) := by
  have values : ∀ m ∈ [("type", Json.string "request"), ("key", .string key),
      ("message_ident", .string ident), ("headers", ofTexts headers), ("payload", payload)],
      Readable 126 m.2 := by
    simp only [List.forall_mem_cons, List.not_mem_nil, false_imp_iff, implies_true, and_true]
    exact ⟨trivial, trivial, trivial, readable_ofTexts _ _, readable⟩
  refine (parseAs?_ofMembers values).trans ?_
  simp [field?, Entries.ofList, Entries.find?_insert, Entries.find?, Json.text?, table?_ofTexts,
    optional?_of_ne_null there, value?_ofValue payload readable, requestParts]

end RemotePlayback.Dealer.Frame
