import RemotePlayback.Text.Blank

/-!
Items of the catalogue and their URIs.

An item is named by its kind and an id. The six known kinds have ids of 22 ASCII letters and digits;
any other kind is kept as it is written, with whatever follows its name as the id. A URI is read
leniently, without the blanks around it and with the older form of a playlist URI, which names the
playlist's owner; it is written in one form only.
-/

namespace RemotePlayback

namespace Item

/-- What kind of item an id names. -/
inductive Kind where
  | track
  | episode
  | album
  | artist
  | playlist
  | «show»
  | other (name : String)
  deriving DecidableEq, Inhabited

namespace Kind

/-- The kind that a name stands for. -/
def ofName (name : String) : Kind :=
  if name = "track" then .track
  else if name = "episode" then .episode
  else if name = "album" then .album
  else if name = "artist" then .artist
  else if name = "playlist" then .playlist
  else if name = "show" then .show
  else .other name

/-- The name of a kind in URIs. -/
def name : Kind → String
  | .track => "track"
  | .episode => "episode"
  | .album => "album"
  | .artist => "artist"
  | .playlist => "playlist"
  | .show => "show"
  | .other name => name

/-- The known kinds have ids of a fixed form. -/
def isKnown : Kind → Bool
  | .other _ => false
  | _ => true

theorem name_ofName (n : String) : (ofName n).name = n := by
  unfold ofName
  repeat' split
  all_goals simp_all [name]

end Kind

/-- The length of the ids of known kinds. -/
def idLength : Nat := 22

/-- The form of the ids of known kinds. -/
def isBase62 (id : String) : Bool :=
  id.toList.length == idLength && id.toList.all Char.isAlphanum

end Item

/-- An item of the catalogue. -/
structure Item where
  kind : Item.Kind
  id : String
  deriving DecidableEq, Inhabited

namespace Item

/-- The item of a kind and id, if the id has the form that the kind asks for. -/
def of? (kind : Kind) (id : String) : Option Item :=
  if id = "" ∨ (kind.isKnown ∧ ¬ isBase62 id) then none else some ⟨kind, id⟩

/-- The item of a bare id and the name of its kind. -/
def ofName? (kind id : String) : Option Item := of? (Kind.ofName kind) id

/-- What every URI begins with. -/
def scheme : String := "spotify:"

/-- The URI of an item. -/
def uri (i : Item) : String := scheme ++ i.kind.name ++ ":" ++ i.id

/--
The item that follows the scheme in a URI. Under the kind `user`, a playlist of the user is that
playlist, and everything else stays as it is.
-/
def ofPath? (path : List Char) : Option Item :=
  match Text.cutAt ':' path with
  | (kind, some (c :: rest)) =>
    if kind = [] then none
    else if kind = "user".toList then
      match Text.splitAll ':' (c :: rest) with
      | [_, middle, id] =>
        if middle = "playlist".toList then of? .playlist (String.ofList id)
        else of? (.other "user") (String.ofList (c :: rest))
      | _ => of? (.other "user") (String.ofList (c :: rest))
    else of? (Kind.ofName (String.ofList kind)) (String.ofList (c :: rest))
  | _ => none

/-- The item that a URI names. -/
def ofUri? (s : String) : Option Item :=
  (Text.stripStart? scheme.toList (Text.trim s.toList)).bind ofPath?

/-- The item that a URI names, where there may be none. -/
def ofOptionalUri? (s : Option String) : Option Item := (s.bind Text.nonEmpty?).bind ofUri?

end Item

end RemotePlayback
