import RemotePlayback.Proofs.Collection
import RemotePlayback.Proofs.Dealer.Payload
import RemotePlayback.Proofs.Json.Locality
import RemotePlayback.Proofs.Json.Parsed

/-! A collection document arrives alike however it is delivered.

A frame may carry the document inline, its text as a string, or the text in base64, and a string
does not say which of the two it is. An inline document goes on as its compact text, the others as
the text they were sent with; so the bytes differ, and the same changes have to be read from them.
What tells the strings apart is their first character: white space, brackets and braces are not in
the alphabet of base64. -/

namespace RemotePlayback.Dealer.Frame

open Json Json.Document
open Collection (savedItems savedTracks readable_savedItems readable_savedTracks)

variable {uri t frame : String} {headers : Headers} {v : Json} {depth : Nat}

/-! ## Texts and base64 -/

/-- **The text of an array or an object is no base64.** -/
theorem text_is_not_base64 (text : IsText depth (Bytes.ofText t) v) (container : v.IsContainer) :
    Base64.decode? t.toList = none := by
  obtain ⟨b, r, start, bracket⟩ := text.start container
  rw [Bytes.ofText] at start
  cases chars : t.toList with
  | nil =>
    rw [chars] at start
    cases start
  | cons c cs =>
    rw [chars, List.flatMap_cons] at start
    refine Base64.decode?_eq_none ?_ cs
    cases symbol : Base64.symbolValue? c with
    | none => rfl
    | some n =>
      obtain ⟨a, one, printable, notArray, notObject⟩ := Base64.byte_of_symbolValue? symbol
      have solid : isSpace a = false := by
        simp only [isSpace, Bool.or_eq_false_iff, beq_eq_false_iff_ne]
        refine ⟨⟨⟨?_, ?_⟩, ?_⟩, ?_⟩ <;>
          · rintro rfl
            exact absurd printable (by decide)
      rw [one, List.singleton_append, skip_cons solid] at start
      obtain ⟨rfl, -⟩ := List.cons.inj start
      rcases bracket with eq | eq
      · exact (notArray eq).elim
      · exact (notObject eq).elim

/-! ## Deliveries -/

/-- **The ways to deliver a document**: its text as a string, the text in base64, or the document
inline. -/
inductive Delivers (uri : String) (headers : Headers) (t : String) (v : Json) (frame : String) :
    Prop where
  | text (message : IsMessage frame uri headers [.string t])
  | encoded (message : IsMessage frame uri headers
      [.string (String.ofList (Base64.encode (Bytes.ofText t)))])
  | inline (message : IsMessage frame uri headers [v])

/-- A payload in one piece is that piece. -/
theorem IsMessage.read_single {x : Json} (message : IsMessage frame uri headers [x])
    (push : ¬Handshakes uri headers) (plain : ¬Compressed headers) :
    Frame.read frame = .ok (.notification uri headers (elementPayload x)) := by
  rw [message.read push, messagePayload, if_neg fun both => plain (isCompressed_iff.mp both.1),
    List.flatMap_singleton]
  rfl

theorem elementPayload_of_container (container : v.IsContainer) : elementPayload v = v.bytes := by
  cases v with
  | array | object => rfl
  | _ => exact container.elim

/-- Each way to deliver a document leaves a text of it, be it another one than was sent. -/
theorem Delivers.read (delivers : Delivers uri headers t v frame) (container : v.IsContainer)
    (readable : Readable maxDepth v) (text : IsText maxDepth (Bytes.ofText t) v)
    (push : ¬Handshakes uri headers) (plain : ¬Compressed headers) :
    ∃ payload, Frame.read frame = .ok (.notification uri headers payload) ∧
      IsText maxDepth payload v := by
  cases delivers with
  | text message =>
    refine ⟨_, message.read_single push plain, ?_⟩
    rwa [elementPayload, textPayload, text_is_not_base64 text container]
  | encoded message =>
    refine ⟨_, message.read_single push plain, ?_⟩
    rwa [elementPayload, textPayload_encode]
  | inline message =>
    refine ⟨_, message.read_single push plain, ?_⟩
    rw [elementPayload_of_container container]
    exact parse?_bytes readable

/-! ## Texts inline -/

/-- The text of a message with a text for its payload as it stands. -/
def literalText (uri : String) (headers : Headers) (t : String) : String :=
  String.ofList ('{' :: (quoted "headers" ++ ':' :: ((ofTexts headers).chars ++
    ',' :: (quoted "payloads" ++ ':' :: '[' :: (t.toList ++ ']' ::
      (moreMemberChars [("type", .string "message"), ("uri", .string uri)] ++ ['}']))))))

theorem bytes_literalText (uri : String) (headers : Headers) (t : String) :
    Bytes.ofText (literalText uri headers t) =
      0x7B :: (encoded (quoted "headers") ++ 0x3A :: (encoded (ofTexts headers).chars ++
        0x2C :: (encoded (quoted "payloads") ++ 0x3A :: 0x5B :: (Bytes.ofText t ++ 0x5D ::
          (encoded (moreMemberChars [("type", .string "message"), ("uri", .string uri)]) ++
            [0x7D]))))) := by
  simp [literalText, Bytes.ofText, encoded, List.flatMap_append, String.utf8EncodeChar]

/-- The document of such a message, where the text is that of a document. -/
def literalDocument (uri : String) (headers : Headers) (d : Document) : Document :=
  .object ((bodyOf "headers", ofValue (ofTexts headers)) :: (bodyOf "payloads", .array [d]) ::
    Document.ofMembers [("type", .string "message"), ("uri", .string uri)])

/-- The text of a container is read in its place among the payloads. -/
theorem read?_literalText {d : Document} (read : read? (Bytes.ofText t) = some d)
    (front : ∃ b r, skip (Bytes.ofText t) = b :: r ∧ (b = 0x5B ∨ b = 0x7B)) :
    read? (Bytes.ofText (literalText uri headers t)) = some (literalDocument uri headers d) := by
  have notEmpty (rest rest' : Bytes) : skip (Bytes.ofText t ++ rest) ≠ 0x5D :: rest' := by
    obtain ⟨b, r, start, bracket⟩ := front
    rw [skip_append start]
    intro eq
    rcases bracket with rfl | rfl <;> exact absurd (List.cons.inj eq).1 (by decide)
  have tail : MembersReadable 0 [("type", .string "message"), ("uri", .string uri)] :=
    ⟨trivial, trivial, trivial⟩
  obtain ⟨blanks, blank, inside⟩ := value_of_read? read
    [.array [], .object [(bodyOf "headers", ofValue (ofTexts headers))] (bodyOf "payloads")]
    (ends_cons (b := 0x5D) (by decide)
      (encoded (moreMemberChars [("type", .string "message"), ("uri", .string uri)]) ++ [0x7D]))
  have whole : readPart? (Bytes.ofText (literalText uri headers t)) =
      some (literalDocument uri headers d, []) := by
    rw [readPart?, bytes_literalText, value_object (skip_cons rfl _) (not_end_of_key _ _)
        (key?_quoted _ _),
      value_chars _ (readable_ofTexts 0 headers) _ _ (ends_cons (b := 0x2C) (by decide) _),
      resume_member (skip_cons rfl _) (key?_quoted _ _),
      value_array (skip_cons rfl _) (notEmpty _), inside, resume_endArray (skip_blanks blank rfl _),
      resume_moreMembers _ tail, resume]
    rfl
  rw [read?, whole]
  rfl

/-- **Such a message carries the value of the text.** -/
theorem isMessage_literalText (text : IsText depth (Bytes.ofText t) v) (deep : depth ≤ 125)
    (container : v.IsContainer) : IsMessage (literalText uri headers t) uri headers [v] := by
  obtain ⟨d, read, value⟩ := Option.bind_eq_some_iff.mp (text.mono deep)
  refine ⟨messageParts uri headers [v], ?_, rfl, rfl, rfl, rfl⟩
  rw [HasParts, parseAs?, read?_literalText read (text.start container), Option.bind_some, maxDepth,
    Parts.read?]
  simp [literalDocument, record?, Record.ofMembers?, Document.ofMembers, bodyText?_bodyOf,
    Entries.find?, Record.field, text?_ofValue, Json.text?, table?_ofTexts, list?, readAll?, value,
    messageParts]

/-! ## Documents -/

/-- **A collection document arrives alike however it is delivered.** No text of the document is
base64, whatever blanks, spellings and repeated members are in it. The frames of all deliveries are
read as the notification with a payload of the same changes, or of the same error, so a session does
the same with them. There are such frames for every URI and all headers, and those that are inline
may have the document as its compact text or as the text at hand. -/
theorem document_arrives_however_delivered (container : v.IsContainer) (readable : Readable 100 v)
    (text : IsText maxDepth (Bytes.ofText t) v) (push : ¬Handshakes uri headers)
    (plain : ¬Compressed headers) :
    Base64.decode? t.toList = none ∧
    (∀ frame, Delivers uri headers t v frame →
      ∃ payload, Frame.read frame = .ok (.notification uri headers payload) ∧
        Collection.decode payload = Collection.ofJson v) ∧
    (∀ s : Session, Topic.ofUri uri s.config.userId = .collection →
      ∀ frame frame', Delivers uri headers t v frame → Delivers uri headers t v frame' →
        s.handle frame = s.handle frame') ∧
    (∀ x ∈ [.string t, .string (String.ofList (Base64.encode (Bytes.ofText t))), v],
      IsMessage (messageText uri headers [x]) uri headers [x]) ∧
    (IsText 125 (Bytes.ofText t) v → IsMessage (literalText uri headers t) uri headers [v]) := by
  have reads : ∀ frame, Delivers uri headers t v frame →
      ∃ payload, Frame.read frame = .ok (.notification uri headers payload) ∧
        Collection.decode payload = Collection.ofJson v := by
    intro frame delivers
    obtain ⟨payload, arrives, textOf⟩ :=
      delivers.read container (readable.mono _ (by decide)) text push plain
    exact ⟨payload, arrives, Collection.decode_of_isText textOf⟩
  refine ⟨text_is_not_base64 text container, reads, ?_, ?_, ?_⟩
  · intro s collection frame frame' delivers delivers'
    obtain ⟨payload, arrives, decoded⟩ := reads frame delivers
    obtain ⟨payload', arrives', decoded'⟩ := reads frame' delivers'
    rw [Session.handle, Session.handle, arrives, arrives']
    dsimp only
    rw [Session.notify, Session.notify, collection]
    dsimp only
    rw [decoded, decoded']
  · intro x mem
    have single : ItemsReadable 125 [x] := by
      refine ⟨?_, trivial⟩
      simp only [List.mem_cons, List.not_mem_nil, or_false] at mem
      rcases mem with rfl | rfl | rfl
      · trivial
      · trivial
      · exact readable.mono _ (by decide)
    exact ⟨_, hasParts_messageText single, rfl, rfl, rfl, rfl⟩
  · intro shallow
    exact isMessage_literalText shallow (Nat.le_refl _) container

/-- An update with a saved track, after a blank line; of its two lists of items the last counts. -/
def spelledUpdate : String :=
  "\n \x7b\"items\":null,\"items\":[\x7b\"identifier\":\"0000000000000000000000\"," ++
    "\"type\":\"track\"\x7d]\x7d"

theorem isText_spelledUpdate :
    IsText 100 (Bytes.ofText spelledUpdate) (savedTracks ["0000000000000000000000"]) := by
  let items := savedItems ["0000000000000000000000"]
  have readable (depth : Nat) : Readable (depth + 2) items := readable_savedItems _ depth
  have bytes : Bytes.ofText spelledUpdate = 0x0A :: 0x20 :: 0x7B :: (encoded (quoted "items") ++
      0x3A :: 0x6E :: 0x75 :: 0x6C :: 0x6C :: 0x2C :: (encoded (quoted "items") ++
        0x3A :: (encoded items.chars ++ [0x7D]))) := by decide +kernel
  have read : readPart? (Bytes.ofText spelledUpdate) = some (.object [(bodyOf "items", .null),
      (bodyOf "items", ofValue items)], []) := by
    rw [bytes, readPart?, value_object rfl (not_end_of_key "items" _) (key?_quoted _ _),
      value_null (skip_cons rfl _) rfl, resume_member (skip_cons rfl _) (key?_quoted _ _),
      value_chars _ (readable 0) _ _ (ends_cons (by decide) _),
      resume_endObject (skip_cons rfl _), resume]
    rfl
  have value : value? 100 (.object [(bodyOf "items", .null),
      (bodyOf "items", ofValue items)]) = some (Json.ofMembers [("items", items)]) := by
    simp [value?, memberValues?, bodyText?_bodyOf, value?_ofValue items (readable 97),
      Entries.insert, Json.ofMembers, Entries.ofList]
  rw [IsText, read?, read]
  exact value

/-- An update whose text begins with a blank line and has its items twice. -/
theorem spelled_update_arrives :
    let uri := "hm://collection/collection/bob/json"
    let update := savedTracks ["0000000000000000000000"]
    update.IsContainer ∧ Readable 100 update ∧
      IsText maxDepth (Bytes.ofText spelledUpdate) update ∧
      ¬Handshakes uri Table.empty ∧ ¬Compressed Table.empty ∧
      ∀ frame ∈ [messageText uri Table.empty [.string spelledUpdate],
          messageText uri Table.empty
            [.string (String.ofList (Base64.encode (Bytes.ofText spelledUpdate)))],
          messageText uri Table.empty [update], literalText uri Table.empty spelledUpdate],
        ∃ payload, Frame.read frame = .ok (.notification uri Table.empty payload) ∧
          Collection.decode payload =
            .ok [⟨⟨.track, "0000000000000000000000"⟩, false, none⟩] := by
  intro uri update
  have container : update.IsContainer := trivial
  have readable : Readable 100 update := readable_savedTracks _ 97
  have text := isText_spelledUpdate.mono (show 100 ≤ maxDepth by decide)
  have push : ¬Handshakes uri Table.empty := by
    rw [← handshakes_iff]
    decide
  have plain : ¬Compressed Table.empty := by
    rw [← isCompressed_iff]
    decide
  obtain ⟨-, reads, -, frames, literal⟩ :=
    document_arrives_however_delivered container readable text push plain
  have changes : Collection.ofJson update =
      .ok [⟨⟨.track, "0000000000000000000000"⟩, false, none⟩] :=
    Collection.ofJson_savedTracks (by decide)
  refine ⟨container, readable, text, push, plain, ?_⟩
  rw [← changes]
  simp only [List.forall_mem_cons, List.not_mem_nil, false_imp_iff, implies_true, and_true]
    at frames ⊢
  obtain ⟨plainly, encoded, compact⟩ := frames
  exact ⟨reads _ (.text plainly), reads _ (.encoded encoded), reads _ (.inline compact),
    reads _ (.inline (literal (isText_spelledUpdate.mono (by decide))))⟩

end RemotePlayback.Dealer.Frame
