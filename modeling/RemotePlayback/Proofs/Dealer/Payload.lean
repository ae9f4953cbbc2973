import RemotePlayback.Proofs.Base64
import RemotePlayback.Proofs.Dealer.Parts
import RemotePlayback.Proofs.Gzip.RoundTrip
import RemotePlayback.Session.Step

/-! What the payloads of frames carry.

The payload of a message comes in pieces, each encoded by itself, and is compressed as a whole or
not at all; so it is put together before it is decompressed, and it does not matter where it was
cut. The payload of a request is a JSON value, or the compressed text of one under a name of its
own; either way the request is the same. Compressed data may be that of any writer: all that is
asked of it is that the reader gets back what was to be sent. -/

namespace RemotePlayback.Dealer.Frame

open Json Gzip

variable {text uri : String} {headers : Headers} {payloads : List Json} {raw data : Bytes}

/-! ## Messages -/

/-- **A byte string in pieces**: base64 texts of consecutive chunks, empty ones among them, with
nulls anywhere. -/
inductive Carries : List Json → Bytes → Prop where
  | nil : Carries [] []
  | null {payloads : List Json} {raw : Bytes} (rest : Carries payloads raw) :
    Carries (.null :: payloads) raw
  | chunk (c : Bytes) {payloads : List Json} {raw : Bytes} (rest : Carries payloads raw) :
    Carries (.string (String.ofList (Base64.encode c)) :: payloads) (c ++ raw)

theorem textPayload_encode (c : Bytes) : textPayload (String.ofList (Base64.encode c)) = c := by
  rw [textPayload, String.toList_ofList, Base64.decode?_encode, Option.getD_some]

/-- Pieces are put together as they were cut. -/
theorem Carries.joined (carries : Carries payloads raw) :
    payloads.flatMap elementPayload = raw := by
  induction carries with
  | nil => rfl
  | null rest ih => rwa [List.flatMap_cons, elementPayload, List.nil_append]
  | chunk c rest ih => rw [List.flatMap_cons, elementPayload, textPayload_encode, ih]

theorem Carries.readable (carries : Carries payloads raw) (depth : Nat) :
    ItemsReadable depth payloads := by
  induction carries with
  | nil => trivial
  | null rest ih => exact ⟨trivial, ih⟩
  | chunk c rest ih => exact ⟨trivial, ih⟩

/-- The headers say that the payload is compressed, in letters of any case. -/
def Compressed (headers : Headers) : Prop :=
  ∃ v, headers.find? transferEncodingHeader = some v ∧
    v.toList.map Char.toLower = ['g', 'z', 'i', 'p']

theorem isCompressed_iff : isCompressed headers = true ↔ Compressed headers := by
  unfold isCompressed Compressed
  cases headers.find? transferEncodingHeader with
  | none => simp
  | some v => simp [Text.equalsIgnoringCase]

/-- A frame with the URI and the headers is the handshake of its connection. -/
def Handshakes (uri : String) (headers : Headers) : Prop :=
  handshakeUriStart.toList <+: uri.toList ∨ ∃ id, headers.find? connectionIdHeader = some id

theorem handshakes_iff : (Text.startsWith handshakeUriStart uri ||
    headers.contains connectionIdHeader) = true ↔ Handshakes uri headers := by
  rw [Bool.or_eq_true, Text.startsWith_iff, Table.contains, Option.isSome_iff_exists, Handshakes]

/-- **A message** with a URI, headers and payloads; whatever else it has. -/
def IsMessage (text uri : String) (headers : Headers) (payloads : List Json) : Prop :=
  ∃ parts, HasParts text parts ∧ parts.type = "message" ∧ parts.uri = some uri ∧
    parts.headers = headers ∧ parts.payloads = payloads

theorem IsMessage.read (message : IsMessage text uri headers payloads)
    (push : ¬Handshakes uri headers) :
    Frame.read text = (messagePayload payloads headers).map (.notification uri headers ·) := by
  obtain ⟨parts, parsed, type, named, rfl, rfl⟩ := message
  rw [parsed.read, ofParts, if_pos type, ofMessage, named]
  dsimp only
  rw [if_neg fun handshake => push (handshakes_iff.mp handshake)]

theorem messagePayload_plain (plain : ¬Compressed headers) (carries : Carries payloads raw) :
    messagePayload payloads headers = .ok raw := by
  rw [messagePayload, carries.joined, if_neg fun both => plain (isCompressed_iff.mp both.1)]

theorem messagePayload_compressed (compressed : Compressed headers)
    (carries : Carries payloads raw) (packed : gunzip? raw = some data) :
    messagePayload payloads headers = .ok data := by
  have some : raw ≠ [] := by
    rintro rfl
    cases packed
  rw [messagePayload, carries.joined, if_pos ⟨isCompressed_iff.mpr compressed, some⟩, packed]

/-- **A payload arrives however it was cut.** A message that is no handshake is a notification with
its URI and its headers. If the headers do not say that the payload is compressed, it is what the
pieces carry; if they say so, it is what the pieces carry compressed, be it empty. -/
theorem payload_arrives_in_pieces (push : ¬Handshakes uri headers)
    (carries : Carries payloads raw) :
    IsMessage (messageText uri headers payloads) uri headers payloads ∧
    ∀ text, IsMessage text uri headers payloads →
      (¬Compressed headers → Frame.read text = .ok (.notification uri headers raw)) ∧
      (Compressed headers → ∀ data, gunzip? raw = some data →
        Frame.read text = .ok (.notification uri headers data)) := by
  refine ⟨⟨_, hasParts_messageText (carries.readable _), rfl, rfl, rfl, rfl⟩, ?_⟩
  intro text message
  rw [message.read push]
  constructor
  · intro plain
    rw [messagePayload_plain plain carries]
    rfl
  · intro compressed data packed
    rw [messagePayload_compressed compressed carries packed]
    rfl

/-- Nothing at all, compressed, and cut behind the first byte. -/
theorem nothing_arrives_compressed :
    let headers : Headers := Table.empty.insert transferEncodingHeader "GZip"
    let payloads := [.string "Hw==", .null, .string "",
      .string (String.ofList (Base64.encode (gzip []).tail))]
    ¬Handshakes "hm://pusher/v1" headers ∧ Carries payloads (gzip []) ∧
      Frame.read (messageText "hm://pusher/v1" headers payloads) =
        .ok (.notification "hm://pusher/v1" headers []) := by
  intro headers payloads
  have push : ¬Handshakes "hm://pusher/v1" headers := by
    rw [← handshakes_iff]
    decide
  have carries : Carries payloads (gzip []) := by
    have pieces : Carries payloads ([0x1F] ++ ([] ++ ((gzip []).tail ++ []))) :=
      .chunk [0x1F] (.null (.chunk [] (.chunk (gzip []).tail .nil)))
    rwa [List.append_nil] at pieces
  obtain ⟨message, reads⟩ := payload_arrives_in_pieces push carries
  obtain ⟨-, arrives⟩ := reads _ message
  exact ⟨push, carries, arrives ⟨"GZip", by decide, by decide⟩ [] (gunzip?_gzip [])⟩

/-! ## Requests -/

/-- **A request** with a key, which it may lack, the URI that it is about, headers and a payload;
whatever else it has. -/
def IsRequest (text : String) (key : Option String) (uri : String) (headers : Headers)
    (payload : Json) : Prop :=
  ∃ parts, HasParts text parts ∧ parts.type = "request" ∧ parts.key = key ∧
    parts.messageIdent.or parts.uri = some uri ∧ parts.headers = headers ∧
    parts.payload = some payload

variable {key : Option String} {payload : Json}

theorem IsRequest.read (request : IsRequest text key uri headers payload) :
    Frame.read text = (requestPayload payload).map (.request (key.getD uri) uri headers ·) := by
  obtain ⟨parts, parsed, type, rfl, named, rfl, carried⟩ := request
  have other : ¬parts.type = "message" := by
    rw [type]
    decide
  rw [parsed.read, ofParts, if_neg other, if_pos type, ofRequest, named, carried]

/-- A value with compressed data in place of its text. -/
def wrapped (packed : Bytes) : Json :=
  Json.ofMembers [("compressed", .string (String.ofList (Base64.encode packed)))]

theorem requestPayload_wrapped {packed : Bytes} (unpacked : gunzip? packed = some data) :
    requestPayload (wrapped packed) = .ok data := by
  have found : (wrapped packed).member? "compressed" =
      some (.string (String.ofList (Base64.encode packed))) := by
    simp [wrapped, Json.ofMembers, Json.member?, Entries.ofList, Entries.find?_insert]
  rw [requestPayload, found, Option.bind_some, Json.text?]
  simp only [String.toList_ofList, Base64.decode?_encode, unpacked]

/-- A value without a compressed text goes on as its own text. -/
theorem requestPayload_inline (plain : ∀ s, payload.member? "compressed" ≠ some (.string s)) :
    requestPayload payload = .ok payload.bytes := by
  have none : (payload.member? "compressed").bind Json.text? = none := by
    cases found : payload.member? "compressed" with
    | none => rfl
    | some v =>
      cases v with
      | string s => exact (plain s found).elim
      | _ => rfl
  rw [requestPayload, none]

/-- **A request is the same with its payload inline or compressed.** For every object without a text
under the name of compressed data, the request that carries the object and the one that carries its
compact text compressed are read as the same request with the compact text as its payload. That text
is read back as the object, and a session does the same with both. -/
theorem inline_and_wrapped_agree {ms : List (String × Json)} {depth : Nat} {packed : Bytes}
    (plain : ∀ s, (Json.object ms).member? "compressed" ≠ some (.string s)) (deep : depth ≤ 126)
    (readable : Readable depth (.object ms))
    (unpacked : gunzip? packed = some (Json.object ms).bytes) (uri : String) (headers : Headers) :
    (∀ key,
      IsRequest (requestText key uri headers (.object ms)) (some key) uri headers (.object ms) ∧
      IsRequest (requestText key uri headers (wrapped packed)) (some key) uri headers
        (wrapped packed)) ∧
    parse? (Json.object ms).bytes = some (.object ms) ∧
    ∀ key inline wrapping, IsRequest inline key uri headers (.object ms) →
      IsRequest wrapping key uri headers (wrapped packed) →
      Frame.read inline = .ok (.request (key.getD uri) uri headers (Json.object ms).bytes) ∧
      Frame.read wrapping = .ok (.request (key.getD uri) uri headers (Json.object ms).bytes) ∧
      ∀ s : Session, s.handle wrapping = s.handle inline := by
  have readable : Readable 126 (.object ms) := readable.mono _ deep
  refine ⟨fun key => ⟨?_, ?_⟩, parse?_bytes (readable.mono _ (by decide)), ?_⟩
  · exact ⟨_, hasParts_requestText readable (by nofun), rfl, rfl, rfl, rfl, rfl⟩
  · have wrappedReadable : Readable 126 (wrapped packed) :=
      readable_ofMembers (by simp [Readable])
    exact ⟨_, hasParts_requestText wrappedReadable (by nofun), rfl, rfl, rfl, rfl, rfl⟩
  · intro key inline wrapping isInline isWrapping
    have first := isInline.read
    have second := isWrapping.read
    rw [requestPayload_inline plain] at first
    rw [requestPayload_wrapped unpacked] at second
    refine ⟨first, second, fun s => ?_⟩
    rw [Session.handle, Session.handle, first, second]

/-- A command to pause, inline and compressed. -/
theorem pause_inline_and_wrapped :
    let command := Json.ofMembers [("message_id", .ofInt 7),
      ("command", .ofMembers [("endpoint", .string "pause")])]
    let request := Frame.request "1/abc" "hm://connect-state/v1/player/command" Table.empty
      command.bytes
    (∀ s, command.member? "compressed" ≠ some (.string s)) ∧ Readable 2 command ∧
      gunzip? (gzip command.bytes) = some command.bytes ∧
      Frame.read (requestText "1/abc" "hm://connect-state/v1/player/command" Table.empty command) =
        .ok request ∧
      Frame.read (requestText "1/abc" "hm://connect-state/v1/player/command" Table.empty
        (wrapped (gzip command.bytes))) = .ok request := by
  intro command request
  have plain : ∀ s, command.member? "compressed" ≠ some (.string s) := by
    simp [command, Json.ofMembers, Json.member?, Entries.ofList, Entries.find?_insert,
      Entries.find?]
  have named : Readable 1 (Json.ofMembers [("endpoint", .string "pause")]) :=
    readable_ofMembers (by simp [Readable])
  have word : (Number.integer 7).IsWord := ⟨by decide, by decide⟩
  have readable : Readable 2 command := by
    refine readable_ofMembers ?_
    simp only [List.forall_mem_cons, List.not_mem_nil, false_imp_iff, implies_true, and_true]
    exact ⟨word, named⟩
  have unpacked := gunzip?_gzip command.bytes
  obtain ⟨frames, -, agree⟩ := inline_and_wrapped_agree plain (by decide) readable unpacked
    "hm://connect-state/v1/player/command" Table.empty
  obtain ⟨isInline, isWrapping⟩ := frames "1/abc"
  obtain ⟨inline, wrapping, -⟩ := agree (some "1/abc") _ _ isInline isWrapping
  exact ⟨plain, readable, unpacked, inline, wrapping⟩

end RemotePlayback.Dealer.Frame
