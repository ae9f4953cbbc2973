import RemotePlayback.Backend.Http
import RemotePlayback.Json.Kept
import RemotePlayback.Session.Basic

/-!
The directory, which tells the hosts of the dealer and of the backend.

The first host of each kind is taken. If either is missing, or the directory does not answer as it
should, both endpoints are the configured ones.
-/

namespace RemotePlayback.Backend

open Session (Endpoints)

/-- The request for the hosts. -/
def directoryRequest (base : String) : Request where
  method := "GET"
  url := Text.trimSlashes base ++ "/?type=dealer&type=spclient"
  headers := []
  body := []

/-- The hosts in an answer of the directory. -/
structure Hosts where
  dealer : List String
  backend : List String
  deriving DecidableEq, Inhabited

open Json.Document in
/-- The hosts that a record lists; a kind may be missing. -/
def Hosts.read? (depth : Nat) (d : Json.Document) : Option Hosts := do
  let r ← record? ["dealer", "spclient"] depth d
  let dealer ← r.field "dealer" (some []) (list? text?)
  let backend ← r.field "spclient" (some []) (list? text?)
  return ⟨dealer, backend⟩

/-- The endpoints at the first host of each kind. -/
def Hosts.endpoints? (h : Hosts) : Option Endpoints :=
  match h.dealer, h.backend with
  | dealer :: _, backend :: _ => some ⟨"wss://" ++ dealer, "https://" ++ backend⟩
  | _, _ => none

/-- The endpoints that the directory gives. -/
def directoryAnswer? (r : Response) : Option Endpoints :=
  if r.isSuccess then (Json.parseAs? Hosts.read? r.body).bind Hosts.endpoints? else none

/-- The endpoints to use, by the response of the directory if there was one. -/
def endpoints (fallback : Endpoints) (r : Option Response) : Endpoints :=
  (r.bind directoryAnswer?).getD fallback

end RemotePlayback.Backend
