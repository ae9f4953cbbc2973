import RemotePlayback.Dealer.Topic

/-! Whose rootlist a URI names.

The URI of a rootlist has the name of its user between a beginning and an end. A session that knows
its user compares whole URIs; one that does not looks at the beginning and at the end by themselves.
The two agree but for one URI: the beginning closes with the slash that the end opens with, so a URI
that has this slash only once passes for a rootlist, although there is no name in it. -/

namespace RemotePlayback.Dealer.Topic

variable {uri u v : String} {user : Option String}

/-! ## Rootlists of a known user -/

theorem toList_rootlistUri (user : String) :
    (rootlistUri user).toList = rootlistStart.toList ++ (user.toList ++ rootlistEnd.toList) := by
  simp [rootlistUri, String.toList_append]

/-- **The URI of a rootlist tells its user**, whatever characters the name has. -/
theorem rootlistUri_inj : rootlistUri u = rootlistUri v ↔ u = v := by
  constructor
  · intro same
    have lists : (rootlistUri u).toList = (rootlistUri v).toList := by rw [same]
    rw [toList_rootlistUri, toList_rootlistUri] at lists
    exact String.toList_inj.mp (List.append_cancel_right (List.append_cancel_left lists))
  · intro same
    rw [same]

theorem isRootlist_some_iff : isRootlist uri (some u) = true ↔ uri = rootlistUri u := by
  simp [isRootlist]

/-! ## Rootlists of anybody -/

/-- Begins and ends like the URI of a rootlist, with one slash for both. -/
def namelessUri : String := "hm://playlist/v2/user/rootlist"

/-- The beginning and the end have nothing in common but a slash. -/
theorem overlap_eq {c : List Char} (closes : c <:+ rootlistStart.toList)
    (opens : c <+: rootlistEnd.toList) : c = [] ∨ c = ['/'] := by
  have cuts : ∀ n, n < 10 → rootlistEnd.toList.take n <:+ rootlistStart.toList →
      rootlistEnd.toList.take n = [] ∨ rootlistEnd.toList.take n = ['/'] := by decide
  have short : c.length < 10 := Nat.lt_succ_of_le opens.length_le
  rw [List.prefix_iff_eq_take.mp opens] at closes ⊢
  exact cuts c.length short closes

/-- **What passes for somebody's rootlist**: the rootlists of all users, and one URI more. -/
theorem isRootlist_none_iff :
    isRootlist uri none = true ↔ (∃ u, uri = rootlistUri u) ∨ uri = namelessUri := by
  rw [isRootlist, Bool.and_eq_true, Text.startsWith_iff, Text.endsWith_iff]
  constructor
  · rintro ⟨⟨r, begins⟩, ⟨l, ends⟩⟩
    have same := begins.trans ends.symm
    rcases List.append_eq_append_iff.mp same with ⟨m, -, rest⟩ | ⟨c, front, back⟩
    · -- the end begins where the beginning is over, and the name stands between them
      left
      refine ⟨String.ofList m, String.toList_inj.mp ?_⟩
      rw [toList_rootlistUri, String.toList_ofList, ← begins, rest]
    · rcases overlap_eq ⟨l, front.symm⟩ ⟨r, back.symm⟩ with rfl | rfl
      · left
        refine ⟨"", String.toList_inj.mp ?_⟩
        rw [toList_rootlistUri, ← begins, back]
        rfl
      · right
        have rest : r = "rootlist".toList := (List.cons.inj back).2.symm
        refine String.toList_inj.mp ?_
        rw [← begins, rest]
        decide
  · rintro (⟨u, rfl⟩ | rfl)
    · rw [toList_rootlistUri]
      refine ⟨List.prefix_append _ _, ?_⟩
      rw [← List.append_assoc]
      exact List.suffix_append _ _
    · decide

/-! ## Topics -/

/-- What begins like a rootlist begins like nothing else. -/
theorem begins_of_isRootlist (h : isRootlist uri user = true) :
    rootlistStart.toList <+: uri.toList := by
  cases user with
  | none => exact Text.startsWith_iff.mp (Bool.and_eq_true_iff.mp h).1
  | some u =>
    rw [isRootlist_some_iff.mp h, toList_rootlistUri]
    exact List.prefix_append _ _

theorem startsWith_eq_false {start : String} (begins : rootlistStart.toList <+: uri.toList)
    (apart : ¬rootlistStart.toList <+: start.toList)
    (apart' : ¬start.toList <+: rootlistStart.toList) :
    Text.startsWith start uri = false := by
  rw [← Bool.not_eq_true, Text.startsWith_iff]
  intro other
  rcases List.prefix_or_prefix_of_prefix begins other with h | h
  · exact apart h
  · exact apart' h

/-- Neither the URI of a cluster nor that of a collection begins like a rootlist. -/
theorem ofUri_of_begins (begins : rootlistStart.toList <+: uri.toList) :
    ofUri uri user = if isRootlist uri user then .rootlist else .other := by
  have cluster : Text.startsWith clusterStart uri = false :=
    startsWith_eq_false begins (by decide) (by decide)
  have collection : Text.startsWith collectionStart uri = false :=
    startsWith_eq_false begins (by decide) (by decide)
  simp [ofUri, cluster, collection]

theorem ofUri_eq_rootlist_iff : ofUri uri user = .rootlist ↔ isRootlist uri user = true := by
  constructor
  · intro h
    unfold ofUri at h
    split at h
    · cases h
    · split at h
      · cases h
      · split at h
        · assumption
        · cases h
  · intro h
    rw [ofUri_of_begins (begins_of_isRootlist h), if_pos h]

/-- The one URI that passes for a rootlist is nobody's. -/
theorem namelessUri_ne_rootlistUri (u : String) : namelessUri ≠ rootlistUri u := by
  intro same
  have size : namelessUri.toList.length = (rootlistUri u).toList.length := by rw [← same]
  simp only [toList_rootlistUri, List.length_append] at size
  have start : rootlistStart.toList.length = 22 := by decide
  have last : rootlistEnd.toList.length = 9 := by decide
  have whole : namelessUri.toList.length = 30 := by decide
  omega

/-- **A rootlist is somebody's.** Without a known user, a URI is that of a rootlist exactly if there
is a user for whom it is; this is so for every URI but one. With a user known, a rootlist is the one
looked for exactly if it is this user's. Nobody's rootlist is taken for a cluster or a collection.
-/
theorem every_rootlist_but_one_has_a_user (uri : String) :
    ((ofUri uri none = .rootlist ↔ ∃ u, ofUri uri (some u) = .rootlist) ↔ uri ≠ namelessUri) ∧
    (∀ u v, ofUri (rootlistUri u) (some v) = .rootlist ↔ u = v) ∧
    ∀ u user, ofUri (rootlistUri u) user = .rootlist ∨ ofUri (rootlistUri u) user = .other := by
  refine ⟨?_, fun u v => ?_, fun u user => ?_⟩
  · simp only [ofUri_eq_rootlist_iff, isRootlist_none_iff, isRootlist_some_iff]
    constructor
    · rintro agree rfl
      obtain ⟨u, same⟩ := agree.mp (.inr rfl)
      exact namelessUri_ne_rootlistUri u same
    · intro named
      exact or_iff_left named
  · rw [ofUri_eq_rootlist_iff, isRootlist_some_iff, rootlistUri_inj]
  · have begins : rootlistStart.toList <+: (rootlistUri u).toList := by
      rw [toList_rootlistUri]
      exact List.prefix_append _ _
    rw [ofUri_of_begins begins]
    split
    · exact .inl rfl
    · exact .inr rfl

/-- Without a known user, nobody's rootlist is taken for somebody's. -/
theorem nameless_rootlist :
    ofUri namelessUri none = .rootlist ∧ ¬∃ u, ofUri namelessUri (some u) = .rootlist := by
  refine ⟨by decide, ?_⟩
  rintro ⟨u, h⟩
  exact namelessUri_ne_rootlistUri u (isRootlist_some_iff.mp (ofUri_eq_rootlist_iff.mp h))

end RemotePlayback.Dealer.Topic
