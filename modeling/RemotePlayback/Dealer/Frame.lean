import RemotePlayback.Base64
import RemotePlayback.Failure
import RemotePlayback.Gzip.Member
import RemotePlayback.Json.Kept
import RemotePlayback.Text.Blank

/-!
Frames of the dealer, the service that pushes messages to a device.

Every frame is a JSON object with a type. A message is the handshake of the connection, or a
notification about something that changed; a request wants a reply under its key; ping and pong only
keep the connection alive. Payloads arrive as base64 texts, as plain texts or as JSON, compressed or
not, and are given here as the bytes they stand for.
-/

namespace RemotePlayback.Dealer

/-- The headers of a frame; their names are case-sensitive. -/
abbrev Headers := Table String

/-- A frame that was understood. -/
inductive Frame where
  /-- The first frame of a connection. -/
  | handshake (uri : String) (headers : Headers)
  /-- A push that nobody waits for. -/
  | notification (uri : String) (headers : Headers) (payload : Bytes)
  /-- A command that expects a reply under its key. -/
  | request (key uri : String) (headers : Headers) (payload : Bytes)
  /-- A sign of life. -/
  | pong
  deriving DecidableEq, Inhabited

/-- The header that carries the id of the connection. -/
def connectionIdHeader : String := "Spotify-Connection-Id"

/-- What the URI of a handshake begins with. -/
def handshakeUriStart : String := "hm://pusher/v1/connections/"

/-- The header that tells how the payload was compressed. -/
def transferEncodingHeader : String := "Transfer-Encoding"

namespace Frame

/-- The id that a handshake gives to the connection, if it is more than blanks. -/
def connectionId? : Frame → Option String
  | .handshake _ headers =>
    (headers.find? connectionIdHeader).filter fun id => !Text.isAllBlank id
  | _ => none

/-- The name of a frame's sort. -/
def sort : Frame → String
  | .handshake .. => "handshake"
  | .notification .. => "notification"
  | .request .. => "request"
  | .pong => "pong"

/-! ## Payloads -/

/-- The bytes of a base64 text, or else of the text itself. -/
def textPayload (s : String) : Bytes := (Base64.decode? s.toList).getD (Bytes.ofText s)

/-- The bytes of one element of the payloads of a message. -/
def elementPayload : Json → Bytes
  | .string s => textPayload s
  | .null => []
  | v => v.bytes

/-- Whether the headers say that the payload is compressed. -/
def isCompressed (headers : Headers) : Bool :=
  match headers.find? transferEncodingHeader with
  | some v => Text.equalsIgnoringCase v "gzip"
  | none => false

/-- The payload of a message: its elements joined, and decompressed if the headers say so. -/
def messagePayload (payloads : List Json) (headers : Headers) : Except DecodeError Bytes :=
  let bytes := payloads.flatMap elementPayload
  if isCompressed headers ∧ bytes ≠ [] then
    match Gzip.gunzip? bytes with
    | some data => .ok data
    | none => .error .gzip
  else .ok bytes

/-- The payload of a request: a compressed text under a name of its own, or the JSON value itself.
-/
def requestPayload (v : Json) : Except DecodeError Bytes :=
  match (v.member? "compressed").bind Json.text? with
  | some packed =>
    match Base64.decode? packed.toList with
    | none => .error .base64
    | some bytes =>
      match Gzip.gunzip? bytes with
      | some data => .ok data
      | none => .error .gzip
  | none => .ok v.bytes

/-! ## Reading -/

/-- The parts of a frame before its type is looked at. -/
structure Parts where
  type : String
  uri : Option String
  key : Option String
  messageIdent : Option String
  headers : Headers
  payloads : List Json
  payload : Option Json

open Json.Document in
/-- Reads the parts of a frame; all but the type may be absent. -/
def Parts.read? (depth : Nat) (d : Json.Document) : Option Parts := do
  let r ← record? ["type", "uri", "key", "message_ident", "headers", "payloads", "payload"] depth d
  let type ← r.field "type" none text?
  let uri ← r.field "uri" (some none) (optional? text?)
  let key ← r.field "key" (some none) (optional? text?)
  let messageIdent ← r.field "message_ident" (some none) (optional? text?)
  let headers ← r.field "headers" (some Table.empty) (table? text?)
  let payloads ← r.field "payloads" (some []) (list? value?)
  let payload ← r.field "payload" (some none) (optional? value?)
  return ⟨type, uri, key, messageIdent, headers, payloads, payload⟩

/-- The frame of a message. -/
def ofMessage (p : Parts) : Except DecodeError Frame :=
  match p.uri with
  | none => .error (.missingField "uri")
  | some uri =>
    if Text.startsWith handshakeUriStart uri || p.headers.contains connectionIdHeader then
      .ok (.handshake uri p.headers)
    else (messagePayload p.payloads p.headers).map (.notification uri p.headers ·)

/-- The frame of a request; a request without a key answers to its URI. -/
def ofRequest (p : Parts) : Except DecodeError Frame :=
  match p.messageIdent.or p.uri with
  | none => .error (.missingField "message_ident")
  | some uri =>
    let payload : Except DecodeError Bytes :=
      match p.payload with
      | some v => requestPayload v
      | none => .ok []
    payload.map (.request (p.key.getD uri) uri p.headers ·)

/-- The frame of the parts, by their type. -/
def ofParts (p : Parts) : Except DecodeError Frame :=
  if p.type = "message" then ofMessage p
  else if p.type = "request" then ofRequest p
  else if p.type = "pong" ∨ p.type = "ping" then .ok .pong
  else .error (.unexpected ("frame type `" ++ p.type ++ "`"))

/-- The frame of a text. -/
def read (text : String) : Except DecodeError Frame :=
  match Json.parseAs? Parts.read? (Bytes.ofText text) with
  | some p => ofParts p
  | none => .error .json

end Frame

/-! ## Frames sent -/

/-- Asks for a sign of life. -/
def pingText : String := (Json.ofMembers [("type", .string "ping")]).text

/-- Answers the request with a key. -/
def replyText (key : String) (success : Bool) : String :=
  (Json.ofMembers [("type", .string "reply"), ("key", .string key),
    ("payload", Json.ofMembers [("success", .string (if success then "true" else "false"))])]).text

/-- Where to connect: the base without its trailing slashes, with the token. -/
def connectUrl (base token : String) : String :=
  Text.trimSlashes base ++ "?access_token=" ++ token

end RemotePlayback.Dealer
