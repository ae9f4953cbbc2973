import RemotePlayback.Item
import RemotePlayback.Proofs.Text.Cutting

/-! Items are named by their URIs.

A URI is read leniently and written in one form: the path behind the scheme has a kind and an id,
and that of a playlist may have its owner before them, whose name is left out when it is written.
Whatever was read, the URI that is written for it is read as the same item, so two items with one
URI are the same. -/

namespace RemotePlayback.Item

open Text

variable {kind id owner p : List Char} {name : String} {i j : Item} {s t : String}

/-! ## Kinds and ids -/

/-- The names of the known kinds. -/
def knownNames : List String := ["track", "episode", "album", "artist", "playlist", "show"]

/-- **An item as it should be**: under a known kind the id has 22 ASCII letters and digits; any
other kind is called something else, without a colon, and the id is not empty. -/
def WellNamed (i : Item) : Prop :=
  match i.kind with
  | .other name => name ≠ "" ∧ ':' ∉ name.toList ∧ name ∉ knownNames ∧ i.id ≠ ""
  | _ => i.id.toList.length = 22 ∧ ∀ c ∈ i.id.toList, c.isAlphanum = true

theorem Kind.ofName_cases (name : String) :
    (ofName name).isKnown = true ∨ ofName name = .other name ∧ name ∉ knownNames := by
  unfold ofName
  repeat' split
  all_goals simp_all [knownNames, isKnown]

theorem isBase62_iff {id : String} :
    isBase62 id = true ↔ id.toList.length = 22 ∧ ∀ c ∈ id.toList, c.isAlphanum = true := by
  simp [isBase62, idLength]

theorem wellNamed_of_isKnown (known : i.kind.isKnown = true) (form : isBase62 i.id = true) :
    WellNamed i := by
  obtain ⟨kind, id⟩ := i
  cases kind with
  | other name => cases known
  | _ => exact isBase62_iff.mp form

/-- An item that was made has its parts, and an id of the form that its kind asks for. -/
theorem of_of?_eq_some {kind : Kind} {id : String} (made : of? kind id = some i) :
    i = ⟨kind, id⟩ ∧ id ≠ "" ∧ (kind.isKnown = true → isBase62 id = true) := by
  unfold of? at made
  split at made
  · cases made
  · rename_i accepted
    cases made
    refine ⟨rfl, fun empty => accepted (.inl empty), fun known => ?_⟩
    exact Decidable.of_not_not fun other => accepted (.inr ⟨known, other⟩)

theorem of?_empty (kind : Kind) : of? kind "" = none := if_pos (.inl rfl)

theorem isBlank_of_isAlphanum {c : Char} (h : c.isAlphanum = true) : isBlank c = false := by
  have ranges : ((decide (0x41 ≤ c.val ∧ c.val ≤ 0x5A) || (0x61 ≤ c.val && c.val ≤ 0x7A)) ||
      (0x30 ≤ c.val && c.val ≤ 0x39)) = true := h
  have between : 0x30 ≤ c.toNat ∧ c.toNat ≤ 0x7A := by
    simp [UInt32.le_iff_toNat_le] at ranges
    omega
  simp [isBlank, UInt32.le_iff_toNat_le, ← UInt32.toNat_inj]
  omega

/-! ## Paths -/

/-- What follows the scheme in the URI that is written for an item. -/
def path (i : Item) : List Char := i.kind.name.toList ++ ':' :: i.id.toList

theorem toList_uri (i : Item) : i.uri.toList = scheme.toList ++ i.path := by
  simp [uri, path, String.toList_append]

/-- A path of a user that is one of the user's playlists. -/
def IsOwned (kind id : List Char) : Prop :=
  kind = "user".toList ∧ ∃ owner p, splitAll ':' id = [owner, "playlist".toList, p]

/-- The path of a kind and an id. -/
theorem ofPath?_plain (free : ':' ∉ kind) (some : kind ≠ []) (plain : ¬IsOwned kind id) :
    ofPath? (kind ++ ':' :: id) = of? (Kind.ofName (String.ofList kind)) (String.ofList id) := by
  rw [ofPath?, cutAt_append free]
  cases id with
  | nil => exact (of?_empty _).symm
  | cons c rest =>
    dsimp only
    rw [if_neg some]
    split
    · rename_i user
      have other : Kind.ofName (String.ofList kind) = .other "user" := by
        rw [user]
        decide
      rw [other]
      split
      · rename_i owner middle p split
        have other : middle ≠ "playlist".toList := by
          rintro rfl
          exact plain ⟨user, owner, p, split⟩
        rw [if_neg other]
      · rfl
    · rfl

/-- The path of a playlist with its owner. -/
theorem ofPath?_owned (split : splitAll ':' id = [owner, "playlist".toList, p]) :
    ofPath? ("user".toList ++ ':' :: id) = of? .playlist (String.ofList p) := by
  have free : ':' ∉ "user".toList := by decide
  rw [ofPath?, cutAt_append free]
  cases id with
  | nil => cases split
  | cons c rest =>
    dsimp only
    rw [if_neg (by decide), if_pos rfl, split]
    exact if_pos rfl

/-- **A path of an item**: a kind without a colon, and an id. -/
theorem exists_of_ofPath? {path : List Char} (read : ofPath? path = some i) :
    ∃ kind id, path = kind ++ ':' :: id ∧ ':' ∉ kind ∧ kind ≠ [] := by
  unfold ofPath? at read
  split at read
  · rename_i kind c rest cut
    obtain ⟨free, whole⟩ := cutAt_eq_some_iff.mp cut
    refine ⟨kind, c :: rest, whole, free, ?_⟩
    rintro rfl
    cases read
  · cases read

/-- What is read from a path is its own path, or a playlist with an owner in front. -/
theorem of_ofPath? {path : List Char} (read : ofPath? path = some i) :
    WellNamed i ∧ ofPath? i.path = some i ∧
      (i.path = path ∨ i.kind = .playlist ∧ ∀ c ∈ i.id.toList, isBlank c = false) := by
  obtain ⟨kind, id, rfl, free, some⟩ := exists_of_ofPath? read
  by_cases owned : IsOwned kind id
  · obtain ⟨rfl, owner, p, split⟩ := owned
    rw [ofPath?_owned split] at read
    obtain ⟨rfl, -, form⟩ := of_of?_eq_some read
    have form := form rfl
    have solid : ∀ c ∈ (String.ofList p).toList, isBlank c = false :=
      fun c mem => isBlank_of_isAlphanum ((isBase62_iff.mp form).2 c mem)
    refine ⟨wellNamed_of_isKnown rfl form, ?_, .inr ⟨rfl, solid⟩⟩
    -- the path that is written is that of a kind and an id, without the owner
    have other : ¬IsOwned "playlist".toList p := fun h => absurd h.1 (by decide)
    have named : ':' ∉ "playlist".toList := by decide
    have again := ofPath?_plain named (by decide) other
    rw [String.ofList_toList] at again
    have list : Kind.ofName "playlist" = .playlist := by decide
    rw [list, read] at again
    simpa [path, Kind.name] using again
  · have made := ofPath?_plain free some owned
    rw [read] at made
    obtain ⟨rfl, there, form⟩ := of_of?_eq_some made.symm
    have same : path ⟨Kind.ofName (String.ofList kind), String.ofList id⟩ = kind ++ ':' :: id := by
      rw [path, Kind.name_ofName, String.toList_ofList, String.toList_ofList]
    refine ⟨?_, same ▸ read, .inl same⟩
    rcases Kind.ofName_cases (String.ofList kind) with known | ⟨unknown, new⟩
    · exact wellNamed_of_isKnown known (form known)
    · rw [WellNamed, unknown]
      refine ⟨?_, by simpa using free, new, there⟩
      simpa using some

/-! ## URIs -/

/-- **What a URI is read as**: behind the scheme, white space around it aside, comes a path. -/
theorem ofUri?_eq_some_iff :
    ofUri? s = some i ↔ ∃ rest, trim s.toList = scheme.toList ++ rest ∧ ofPath? rest = some i := by
  rw [ofUri?, Option.bind_eq_some_iff]
  exact exists_congr fun rest => and_congr_left fun _ => stripStart?_eq_some_iff

/-- Behind a colon, white space is cut off at the end only. -/
theorem ofUri?_append {front cs : List Char}
    (whole : s.toList = scheme.toList ++ (front ++ ':' :: cs)) :
    ofUri? s = ofPath? (front ++ ':' :: dropEnd isBlank cs) := by
  have trimmed : trim s.toList = scheme.toList ++ (front ++ ':' :: dropEnd isBlank cs) := by
    rw [whole]
    exact trim_between (c := 's') (d := ':') (by decide) (by decide) ("potify:".toList ++ front) cs
  rw [ofUri?, trimmed, stripStart?_eq_some_iff.mpr rfl]
  rfl

/-- **The URI of an item that was read is read as that item.** -/
theorem ofUri?_uri (read : ofUri? s = some i) : ofUri? i.uri = some i := by
  obtain ⟨rest, trimmed, named⟩ := ofUri?_eq_some_iff.mp read
  obtain ⟨-, again, same | ⟨-, solid⟩⟩ := of_ofPath? named
  · refine ofUri?_eq_some_iff.mpr ⟨i.path, ?_, again⟩
    rw [toList_uri, same, ← trimmed, trim_trim]
  · rw [ofUri?_append (toList_uri i), dropEnd_of_solid solid]
    exact again

/-- White space around a URI makes no difference. -/
theorem ofUri?_blanks {before after : String} (first : ∀ c ∈ before.toList, isBlank c = true)
    (last : ∀ c ∈ after.toList, isBlank c = true) (s : String) :
    ofUri? (before ++ s ++ after) = ofUri? s := by
  rw [ofUri?, ofUri?, String.toList_append, String.toList_append, trim_blanks first last]

/-- The owner of a playlist makes no difference. -/
theorem ofUri?_owner {u p : String} (free : ':' ∉ u.toList) (free' : ':' ∉ p.toList) :
    ofUri? ("spotify:user:" ++ u ++ ":playlist:" ++ p) = ofUri? ("spotify:playlist:" ++ p) := by
  have owned : ("spotify:user:" ++ u ++ ":playlist:" ++ p).toList = scheme.toList ++
      (("user".toList ++ ':' :: (u.toList ++ ':' :: "playlist".toList)) ++ ':' :: p.toList) := by
    simp [String.toList_append, scheme]
  have bare : ("spotify:playlist:" ++ p).toList =
      scheme.toList ++ ("playlist".toList ++ ':' :: p.toList) := by
    simp [String.toList_append, scheme]
  have left : ':' ∉ dropEnd isBlank p.toList :=
    fun mem => free' ((dropEnd_front isBlank _).subset mem)
  have parts :
      splitAll ':' (u.toList ++ ':' :: ("playlist".toList ++ ':' :: dropEnd isBlank p.toList)) =
        [u.toList, "playlist".toList, dropEnd isBlank p.toList] :=
    splitAll_eq_three_iff.mpr ⟨free, by decide, left, rfl⟩
  have other : ¬IsOwned "playlist".toList (dropEnd isBlank p.toList) :=
    fun h => absurd h.1 (by decide)
  rw [ofUri?_append owned, ofUri?_append bare, ofPath?_plain (by decide) (by decide) other]
  rw [List.append_assoc, List.cons_append, List.append_assoc, List.cons_append,
    ofPath?_owned parts]
  rfl

/-- **Items are named by their URIs.** What is read from any text has an id of the form that its
kind asks for, and is read again from the URI that is written for it; so no two items that were read
have one URI. White space around a text makes no difference, and neither does the owner in the URI
of a playlist. -/
theorem items_are_named_by_their_uris :
    (∀ s i, ofUri? s = some i → ofUri? i.uri = some i ∧ WellNamed i ∧
      ∀ t j, ofUri? t = some j → j.uri = i.uri → j = i) ∧
    (∀ before s after : String, (∀ c ∈ before.toList, isBlank c = true) →
      (∀ c ∈ after.toList, isBlank c = true) → ofUri? (before ++ s ++ after) = ofUri? s) ∧
    ∀ u p : String, ':' ∉ u.toList → ':' ∉ p.toList →
      ofUri? ("spotify:user:" ++ u ++ ":playlist:" ++ p) = ofUri? ("spotify:playlist:" ++ p) := by
  refine ⟨fun s i read => ⟨ofUri?_uri read, ?_, fun t j read' same => ?_⟩, ?_, ?_⟩
  · obtain ⟨rest, -, named⟩ := ofUri?_eq_some_iff.mp read
    exact (of_ofPath? named).1
  · have again := ofUri?_uri read'
    rw [same, ofUri?_uri read] at again
    exact (Option.some.inj again).symm
  · intro before s after first last
    exact ofUri?_blanks first last s
  · intro u p free free'
    exact ofUri?_owner free free'

/-- A playlist with its owner, between blanks that are not ASCII. -/
theorem owned_playlist_is_named :
    let item : Item := ⟨.playlist, "37i9dQZF1DXcBWIGoYBM5M"⟩
    let text := "spotify:user:J. Doe:playlist:37i9dQZF1DXcBWIGoYBM5M"
    ofUri? ("\u3000\u2028" ++ text ++ "\u0085") = some item ∧ ofUri? text = some item ∧
      ofUri? item.uri = some item ∧ WellNamed item ∧
      ofUri? "spotify:playlist:37i9dQZF1DXcBWIGoYBM5M" = some item := by
  intro item text
  obtain ⟨names, blanks, owners⟩ := items_are_named_by_their_uris
  have read : ofUri? text = some item := by decide +kernel
  obtain ⟨again, wellNamed, -⟩ := names text item read
  refine ⟨?_, read, again, wellNamed, ?_⟩
  · have front := List.all_eq_true.mp (show "\u3000\u2028".toList.all isBlank = true by decide)
    have behind := List.all_eq_true.mp (show "\u0085".toList.all isBlank = true by decide)
    rw [blanks "\u3000\u2028" text "\u0085" front behind, read]
  · exact (owners "J. Doe" "37i9dQZF1DXcBWIGoYBM5M" (by decide) (by decide)).symm.trans read

end RemotePlayback.Item
