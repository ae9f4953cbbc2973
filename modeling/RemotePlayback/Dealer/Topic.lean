import RemotePlayback.Text.Blank

/-!
What a notification is about, by its URI.

A rootlist is the list of a user's playlists. When the user's name is known, only that user's
rootlist counts; else anybody's does.
-/

namespace RemotePlayback.Dealer

/-- What a notification is about. -/
inductive Topic where
  | cluster
  | rootlist
  | collection
  | other
  deriving DecidableEq, Inhabited

namespace Topic

/-- What the URIs of cluster updates begin with. -/
def clusterStart : String := "hm://connect-state/v1/cluster"

/-- What the URIs of collection updates begin with. -/
def collectionStart : String := "hm://collection/"

/-- What the URIs of collection updates end with. -/
def collectionEnd : String := "/json"

/-- What the URIs of rootlists begin with. -/
def rootlistStart : String := "hm://playlist/v2/user/"

/-- What the URIs of rootlists end with. -/
def rootlistEnd : String := "/rootlist"

/-- The URI of a user's rootlist. -/
def rootlistUri (user : String) : String := rootlistStart ++ user ++ rootlistEnd

/-- Whether a URI is that of the rootlist looked for. -/
def isRootlist (uri : String) : (user : Option String) → Bool
  | some user => uri == rootlistUri user
  | none => Text.startsWith rootlistStart uri && Text.endsWith rootlistEnd uri

/-- The topic of a URI. -/
def ofUri (uri : String) (user : Option String) : Topic :=
  if Text.startsWith clusterStart uri then .cluster
  else if Text.startsWith collectionStart uri && Text.endsWith collectionEnd uri then .collection
  else if isRootlist uri user then .rootlist
  else .other

end Topic

end RemotePlayback.Dealer
