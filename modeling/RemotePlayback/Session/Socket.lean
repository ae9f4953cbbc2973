import RemotePlayback.Session.Step

/-!
The socket on which the frames of the dealer travel.

Frames are texts; a binary message that is text counts as one, and any other is dropped. Signs of
life belong to the socket and are not delivered.
-/

namespace RemotePlayback.Session

/-- What arrives on a socket. -/
inductive SocketMessage where
  | text (s : String)
  | binary (b : Bytes)
  | ping (b : Bytes)
  | pong (b : Bytes)
  | close (code : Nat) (reason : String)
  /-- The connection breaks. -/
  | cut
  deriving DecidableEq, Inhabited

/-- What is read from a socket, up to its end. -/
def readSocket : List SocketMessage → List Received
  | [] => []
  | .text s :: rest => .text s :: readSocket rest
  | .binary b :: rest =>
    match Bytes.toText? b with
    | some s => .text s :: readSocket rest
    | none => readSocket rest
  | .ping _ :: rest | .pong _ :: rest => readSocket rest
  | .close .. :: _ => []
  | .cut :: _ => [.failed .network]

/-- The code by which a socket is closed. -/
def closeCode : CloseReason → Nat
  | .normal => 1000
  | .protocolError => 1002

/-! ## The far end -/

/-- What the far end gets. -/
inductive SocketReply where
  | text (s : String)
  | close (code : Nat) (reason : String)
  | pong (b : Bytes)
  deriving DecidableEq, Inhabited

/-- The pings up to the end of what a socket receives; each is answered by its content. -/
def pongs : List SocketMessage → List SocketReply
  | [] => []
  | .ping b :: rest => .pong b :: pongs rest
  | .close .. :: _ | .cut :: _ => []
  | _ :: rest => pongs rest

/--
What the far end gets of texts that are sent, of a closing message, and in answer to its own
messages. After a closing message pings are not answered; `none` if the far end breaks the
connection.
-/
def farEnd? (texts : List String) (close : Option (CloseReason × String))
    (messages : List SocketMessage) : Option (List SocketReply) :=
  if messages.contains .cut then none
  else some (texts.map .text ++
    match close with
    | some (reason, detail) => [.close (closeCode reason) detail]
    | none => pongs messages)

end RemotePlayback.Session
