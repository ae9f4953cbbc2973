import RemotePlayback.Proofs.Json.Integers

/-! Values in JSON are read back as they were written.

The reader goes on in the containers that are still open, so the statement on a value speaks of them
and of the text behind it: after the text of a value the reader is where it would be if it had that
value in hand. It is proved together with the like statements on the elements of an array and on the
members of an object after the first one. Of the numbers only integers are spoken of, and as they
are read to the end of their digits, what follows a value has to end a number. -/

namespace RemotePlayback.Json

namespace Document

variable {stack : List Frame} {s rest rest' body key : Bytes} {d : Document}

/-! ## Tokens -/

/-- Reading begins at the first byte that is not white space. -/
theorem skip_cons {b : UInt8} (solid : isSpace b = false) (rest : Bytes) :
    skip (b :: rest) = b :: rest := by
  rw [skip, List.dropWhile_cons_of_neg]
  simp [solid]

theorem value_string (start : skip s = 0x22 :: rest) (found : body? rest = some (body, rest')) :
    value stack s = resume (.string body) stack rest' := by
  rw [value.eq_def]
  split <;> simp_all
  subst start
  rw [found]

theorem value_null (start : skip s = 0x6E :: rest)
    (word : word? [0x75, 0x6C, 0x6C] rest = some rest') :
    value stack s = resume .null stack rest' := by
  rw [value.eq_def]
  split <;> simp_all
  subst start
  rw [word]

theorem value_true (start : skip s = 0x74 :: rest)
    (word : word? [0x72, 0x75, 0x65] rest = some rest') :
    value stack s = resume (.bool true) stack rest' := by
  rw [value.eq_def]
  split <;> simp_all
  subst start
  rw [word]

theorem value_false (start : skip s = 0x66 :: rest)
    (word : word? [0x61, 0x6C, 0x73, 0x65] rest = some rest') :
    value stack s = resume (.bool false) stack rest' := by
  rw [value.eq_def]
  split <;> simp_all
  subst start
  rw [word]

/-- A number is read where no other value begins. -/
theorem value_number {b : UInt8} {n : Numeral} (first : Numeral.IsFirst b)
    (start : skip s = b :: rest) (read : Numeral.read? (b :: rest) = some (n, rest')) :
    value stack s = resume (.number n) stack rest' := by
  have other {c : UInt8} {r : Bytes} (no : ¬Numeral.IsFirst c) (eq : skip s = c :: r) : False := by
    rw [start] at eq
    exact no ((List.cons.inj eq).1 ▸ first)
  rw [value.eq_def]
  split
  -- the other values all begin with bytes of their own
  case h_1 eq | h_2 eq | h_3 eq | h_4 eq | h_5 eq | h_6 eq => exact (other (by decide) eq).elim
  case h_7 => rw [start, read]

theorem value_emptyArray (start : skip s = 0x5B :: rest) (close : skip rest = 0x5D :: rest') :
    value stack s = resume (.array []) stack rest' := by
  rw [value.eq_def]
  split <;> simp_all
  subst start
  split <;> simp_all

theorem value_array (start : skip s = 0x5B :: rest) (more : ∀ rest', skip rest ≠ 0x5D :: rest') :
    value stack s = value (.array [] :: stack) rest := by
  rw [value.eq_def]
  split <;> simp_all

theorem value_emptyObject (start : skip s = 0x7B :: rest) (close : skip rest = 0x7D :: rest') :
    value stack s = resume (.object []) stack rest' := by
  rw [value.eq_def]
  split <;> simp_all
  subst start
  split <;> simp_all

theorem value_object (start : skip s = 0x7B :: rest) (more : ∀ rest', skip rest ≠ 0x7D :: rest')
    (named : key? rest = some (key, rest')) :
    value stack s = value (.object [] key :: stack) rest' := by
  rw [value.eq_def]
  split <;> simp_all
  subst start
  rw [named]

variable {items : List Document} {members : List (Bytes × Document)}

theorem resume_item (start : skip s = 0x2C :: rest) :
    resume d (.array items :: stack) s = value (.array (d :: items) :: stack) rest := by
  rw [resume.eq_def]
  dsimp only
  split <;> simp_all

theorem resume_endArray (start : skip s = 0x5D :: rest) :
    resume d (.array items :: stack) s = resume (.array (items.reverse ++ [d])) stack rest := by
  rw [resume.eq_def]
  dsimp only
  split <;> simp_all

theorem resume_member {key' : Bytes} (start : skip s = 0x2C :: rest)
    (named : key? rest = some (key', rest')) :
    resume d (.object members key :: stack) s =
      value (.object ((key, d) :: members) key' :: stack) rest' := by
  rw [resume.eq_def]
  dsimp only
  split <;> simp_all
  subst start
  rw [named]

theorem resume_endObject (start : skip s = 0x7D :: rest) :
    resume d (.object members key :: stack) s =
      resume (.object (members.reverse ++ [(key, d)])) stack rest := by
  rw [resume.eq_def]
  dsimp only
  split <;> simp_all

/-! ## Texts of values -/

/-- The bytes of characters. -/
def encoded (cs : List Char) : Bytes := cs.flatMap String.utf8EncodeChar

theorem bytes_eq (v : Json) : v.bytes = encoded v.chars := by
  rw [bytes, Bytes.ofText, text, String.toList_ofList, encoded]

@[simp] theorem encoded_append (cs ds : List Char) :
    encoded (cs ++ ds) = encoded cs ++ encoded ds := List.flatMap_append

theorem encoded_quoted (s : String) : encoded (quoted s) = 0x22 :: (bodyOf s ++ [0x22]) := by
  rw [bodyOf, Bytes.ofText, String.toList_ofList]
  exact congrArg _ (encoded_append _ _)

/-- A string is read back with its quotes. -/
theorem value_quoted (s : String) (rest : Bytes) :
    value stack (encoded (quoted s) ++ rest) = resume (.string (bodyOf s)) stack rest := by
  rw [encoded_quoted, List.cons_append, List.append_assoc]
  exact value_string (skip_cons rfl _) (body?_bodyOf s rest)

theorem key?_eq_some {rest'' : Bytes} (start : skip s = 0x22 :: rest)
    (found : body? rest = some (key, rest')) (colon : skip rest' = 0x3A :: rest'') :
    key? s = some (key, rest'') := by
  simp only [key?, start, found, colon]

theorem key?_quoted (k : String) (rest : Bytes) :
    key? (encoded (quoted k) ++ 0x3A :: rest) = some (bodyOf k, rest) := by
  rw [encoded_quoted, List.cons_append, List.append_assoc, List.singleton_append]
  exact key?_eq_some (skip_cons rfl _) (body?_bodyOf k _) (skip_cons rfl _)

/-- A key does not end an object. -/
theorem not_end_of_key (k : String) (rest rest' : Bytes) :
    skip (encoded (quoted k) ++ rest) ≠ 0x7D :: rest' := by
  rw [encoded_quoted, List.cons_append, skip_cons rfl]
  exact fun eq => absurd (List.cons.inj eq).1 (by decide)

/-! ## Documents -/

end Document

mutual

/-- **Values that can be read back**: containers are nested at most `depth` deep, the keys of an
object are in their order, and all numbers are integers of 64 bits. -/
def Readable : (depth : Nat) → Json → Prop
  | _, .null | _, .bool _ | _, .string _ => True
  | _, .number n => n.IsWord
  | 0, .array _ | 0, .object _ => False
  | depth + 1, .array xs => ItemsReadable depth xs
  | depth + 1, .object ms => Entries.Sorted ms ∧ MembersReadable depth ms

/-- All elements can be read back. -/
def ItemsReadable : (depth : Nat) → List Json → Prop
  | _, [] => True
  | depth, x :: xs => Readable depth x ∧ ItemsReadable depth xs

/-- The values of all members can be read back. -/
def MembersReadable : (depth : Nat) → List (String × Json) → Prop
  | _, [] => True
  | depth, (_, v) :: ms => Readable depth v ∧ MembersReadable depth ms

end

theorem membersReadable_iff {depth : Nat} {ms : List (String × Json)} :
    MembersReadable depth ms ↔ ∀ m ∈ ms, Readable depth m.2 := by
  induction ms with
  | nil => simp [MembersReadable]
  | cons m ms ih => simp [MembersReadable, ih]

mutual

/-- What can be read back can be read back wherever it may be nested deeper. -/
theorem Readable.mono : ∀ {d d' : Nat} (v : Json), d ≤ d' → Readable d v → Readable d' v
  | _, _, .null, _, h | _, _, .bool _, _, h | _, _, .string _, _, h | _, _, .number _, _, h => h
  | _ + 1, _ + 1, .array xs, le, h => ItemsReadable.mono xs (Nat.le_of_succ_le_succ le) h
  | _ + 1, _ + 1, .object ms, le, h =>
    ⟨h.1, MembersReadable.mono ms (Nat.le_of_succ_le_succ le) h.2⟩

theorem ItemsReadable.mono : ∀ {d d' : Nat} (xs : List Json), d ≤ d' → ItemsReadable d xs →
    ItemsReadable d' xs
  | _, _, [], _, _ => trivial
  | _, _, x :: xs, le, h => ⟨Readable.mono x le h.1, ItemsReadable.mono xs le h.2⟩

theorem MembersReadable.mono : ∀ {d d' : Nat} (ms : List (String × Json)), d ≤ d' →
    MembersReadable d ms → MembersReadable d' ms
  | _, _, [], _, _ => trivial
  | _, _, (_, v) :: ms, le, h => ⟨Readable.mono v le h.1, MembersReadable.mono ms le h.2⟩

end

/-- An object can be read back if its values can, in whatever order it is put together. -/
theorem readable_ofMembers {depth : Nat} {ms : List (String × Json)}
    (values : ∀ m ∈ ms, Readable depth m.2) : Readable (depth + 1) (ofMembers ms) := by
  refine ⟨Entries.sorted_ofList ms, membersReadable_iff.mpr fun m mem => ?_⟩
  exact values m (Entries.mem_ofList mem)

namespace Document

/-- The text of a value begins with something that does not end an array. -/
theorem chars_start {depth : Nat} {v : Json} (h : Readable depth v) :
    ∃ b r, encoded v.chars = b :: r ∧ isSpace b = false ∧ b ≠ 0x5D := by
  cases v with
  | null => exact ⟨_, _, rfl, rfl, by decide⟩
  | bool b => cases b <;> exact ⟨_, _, rfl, rfl, by decide⟩
  | number n =>
    obtain ⟨b, r, start, first, -⟩ := Numeral.read?_integer h ends_nil
    rw [List.append_nil] at start
    exact ⟨b, r, start, first.not_space, fun eq => absurd (eq ▸ first) (by decide)⟩
  | string s => exact ⟨_, _, encoded_quoted s, rfl, by decide⟩
  | array => exact ⟨0x5B, _, rfl, rfl, by decide⟩
  | object => exact ⟨0x7B, _, rfl, rfl, by decide⟩

theorem not_end_of_start {depth : Nat} {v : Json} (h : Readable depth v) (rest rest' : Bytes) :
    skip (encoded v.chars ++ rest) ≠ 0x5D :: rest' := by
  obtain ⟨b, r, start, solid, other⟩ := chars_start h
  rw [start, List.cons_append, skip_cons solid]
  exact fun eq => other (List.cons.inj eq).1

/-- What follows a key and its colon is the value of a member. -/
theorem encoded_member (k : String) (cs ds : List Char) (rest : Bytes) :
    encoded (quoted k ++ ':' :: (cs ++ ds)) ++ rest =
      encoded (quoted k) ++ 0x3A :: (encoded cs ++ (encoded ds ++ rest)) := by
  have colon : encoded (':' :: (cs ++ ds)) = 0x3A :: (encoded cs ++ encoded ds) :=
    congrArg _ (encoded_append cs ds)
  rw [encoded_append, colon]
  simp only [List.append_assoc, List.cons_append]

theorem ends_moreItems (xs : List Json) (rest : Bytes) :
    Ends (encoded (moreItemChars xs) ++ 0x5D :: rest) := by
  cases xs with
  | nil => exact ends_cons (by decide) _
  | cons x xs => exact ends_cons (b := 0x2C) (by decide) _

theorem ends_moreMembers (ms : List (String × Json)) (rest : Bytes) :
    Ends (encoded (moreMemberChars ms) ++ 0x7D :: rest) := by
  cases ms with
  | nil => exact ends_cons (by decide) _
  | cons m ms => exact ends_cons (b := 0x2C) (by decide) _

-- The induction is on the value, for any stack and any rest that ends a number: the reader keeps on
-- its stack the items and members before the value, and goes on behind it with what follows.
mutual

/-- **After the text of a value the reader has that value in hand.** -/
theorem value_chars : ∀ {depth : Nat} (v : Json), Readable depth v → ∀ stack rest, Ends rest →
    value stack (encoded v.chars ++ rest) = resume (ofValue v) stack rest
  | _, .null, _, _, _, _ => value_null (skip_cons rfl _) rfl
  | _, .bool true, _, _, _, _ => value_true (skip_cons rfl _) rfl
  | _, .bool false, _, _, _, _ => value_false (skip_cons rfl _) rfl
  | _, .number n, word, stack, rest, ends => by
    obtain ⟨b, r, start, first, read⟩ := Numeral.read?_integer word ends
    rw [encoded, chars, start, value_number first (skip_cons first.not_space _) read]
    rfl
  | _, .string s, _, _, rest, _ => value_quoted s rest
  | _ + 1, .array [], _, _, _, _ => value_emptyArray (skip_cons rfl _) (skip_cons rfl _)
  | depth + 1, .array (x :: xs), h, stack, rest, _ => by
    obtain ⟨head, tail⟩ : Readable depth x ∧ ItemsReadable depth xs := h
    have start : encoded (Json.array (x :: xs)).chars ++ rest =
        0x5B :: (encoded x.chars ++ (encoded (moreItemChars xs) ++ 0x5D :: rest)) := by
      show 0x5B :: (encoded ((x.chars ++ moreItemChars xs) ++ [']']) ++ rest) = _
      rw [encoded_append, encoded_append, List.append_assoc, List.append_assoc]
      rfl
    rw [start, value_array (skip_cons rfl _) (not_end_of_start head _),
      value_chars x head _ _ (ends_moreItems xs rest), resume_moreItems xs tail]
    rfl
  | _ + 1, .object [], _, _, _, _ => value_emptyObject (skip_cons rfl _) (skip_cons rfl _)
  | depth + 1, .object ((k, v) :: ms), h, stack, rest, _ => by
    obtain ⟨-, head, tail⟩ : _ ∧ Readable depth v ∧ MembersReadable depth ms := h
    have start : encoded (Json.object ((k, v) :: ms)).chars ++ rest = 0x7B :: (encoded (quoted k) ++
        0x3A :: (encoded v.chars ++ (encoded (moreMemberChars ms) ++ 0x7D :: rest))) := by
      show 0x7B :: (encoded ((quoted k ++ ':' :: (v.chars ++ moreMemberChars ms)) ++ ['}']) ++ rest)
        = _
      rw [encoded_append, List.append_assoc, encoded_member]
      rfl
    rw [start, value_object (skip_cons rfl _) (not_end_of_key k _) (key?_quoted k _),
      value_chars v head _ _ (ends_moreMembers ms rest), resume_moreMembers ms tail]
    rfl

theorem resume_moreItems : ∀ {depth : Nat} (xs : List Json), ItemsReadable depth xs →
    ∀ d items stack rest,
      resume d (.array items :: stack) (encoded (moreItemChars xs) ++ 0x5D :: rest) =
        resume (.array (items.reverse ++ d :: ofItems xs)) stack rest
  | _, [], _, _, _, _, _ => resume_endArray (skip_cons rfl _)
  | depth, x :: xs, h, d, items, stack, rest => by
    obtain ⟨head, tail⟩ : Readable depth x ∧ ItemsReadable depth xs := h
    have start : encoded (moreItemChars (x :: xs)) ++ 0x5D :: rest =
        0x2C :: (encoded x.chars ++ (encoded (moreItemChars xs) ++ 0x5D :: rest)) := by
      show 0x2C :: (encoded (x.chars ++ moreItemChars xs) ++ 0x5D :: rest) = _
      rw [encoded_append, List.append_assoc]
    rw [start, resume_item (skip_cons rfl _), value_chars x head _ _ (ends_moreItems xs rest),
      resume_moreItems xs tail, List.reverse_cons, List.append_assoc]
    rfl

theorem resume_moreMembers : ∀ {depth : Nat} (ms : List (String × Json)), MembersReadable depth ms →
    ∀ d key members stack rest,
      resume d (.object members key :: stack) (encoded (moreMemberChars ms) ++ 0x7D :: rest) =
        resume (.object (members.reverse ++ (key, d) :: ofMembers ms)) stack rest
  | _, [], _, _, _, _, _, _ => resume_endObject (skip_cons rfl _)
  | depth, (k, v) :: ms, h, d, key, members, stack, rest => by
    obtain ⟨head, tail⟩ : Readable depth v ∧ MembersReadable depth ms := h
    have start : encoded (moreMemberChars ((k, v) :: ms)) ++ 0x7D :: rest =
        0x2C :: (encoded (quoted k) ++
          0x3A :: (encoded v.chars ++ (encoded (moreMemberChars ms) ++ 0x7D :: rest))) := by
      show 0x2C ::
        (encoded (quoted k ++ ':' :: (v.chars ++ moreMemberChars ms)) ++ 0x7D :: rest) = _
      rw [encoded_member]
    rw [start, resume_member (skip_cons rfl _) (key?_quoted k _),
      value_chars v head _ _ (ends_moreMembers ms rest), resume_moreMembers ms tail,
      List.reverse_cons, List.append_assoc]
    rfl

end

/-- The text of a value is the document of that value. -/
theorem read?_bytes {depth : Nat} {v : Json} (h : Readable depth v) :
    read? v.bytes = some (ofValue v) := by
  have whole : readPart? v.bytes = some (ofValue v, []) := by
    rw [readPart?, bytes_eq, ← List.append_nil (encoded _), value_chars v h _ _ ends_nil, resume]
  rw [read?, whole]
  rfl

/-! ## Values -/

mutual

/-- **The document of a value has that value.** -/
theorem value?_ofValue : ∀ {depth : Nat} (v : Json), Readable depth v →
    value? depth (ofValue v) = some v
  | _, .null, _ => rfl
  | _, .bool _, _ => rfl
  | _, .number n, word => by
    rw [ofValue, value?, value?_numeral word, Option.map_some]
  | _, .string s, _ => by
    rw [ofValue, value?, bodyText?_bodyOf, Option.map_some]
  | depth + 1, .array xs, h => by
    rw [ofValue, value?, itemValues?_ofItems xs h, Option.map_some]
  | depth + 1, .object ms, h => by
    rw [ofValue, value?, memberValues?_ofMembers ms h.2 [] h.1, Option.map_some]
    rfl

theorem itemValues?_ofItems : ∀ {depth : Nat} (xs : List Json), ItemsReadable depth xs →
    itemValues? depth (ofItems xs) = some xs
  | _, [], _ => rfl
  | depth, x :: xs, h => by
    obtain ⟨head, tail⟩ : Readable depth x ∧ ItemsReadable depth xs := h
    rw [ofItems, itemValues?, value?_ofValue x head]
    dsimp only
    rw [itemValues?_ofItems xs tail, Option.map_some]

/-- Members in the order of their keys are entered one behind the other. -/
theorem memberValues?_ofMembers : ∀ {depth : Nat} (ms : List (String × Json)),
    MembersReadable depth ms → ∀ entered, Entries.Sorted (entered ++ ms) →
      memberValues? depth (ofMembers ms) entered = some (entered ++ ms)
  | _, [], _, entered, _ => by rw [ofMembers, memberValues?, List.append_nil]
  | depth, (k, v) :: ms, h, entered, sorted => by
    obtain ⟨head, tail⟩ : Readable depth v ∧ MembersReadable depth ms := h
    -- the key is behind those already entered, so no member is replaced
    have last : ∀ e ∈ entered, e.1 < k := fun e mem =>
      (List.pairwise_append.mp sorted).2.2 e mem (k, v) List.mem_cons_self
    rw [ofMembers, memberValues?, bodyText?_bodyOf, value?_ofValue v head]
    dsimp only
    rw [Entries.insert_eq_append last, memberValues?_ofMembers ms tail _ (by simpa using sorted)]
    simp

end

end Document

/-- **A value is read back from its text.** -/
theorem parse?_bytes {v : Json} (h : Readable Document.maxDepth v) : parse? v.bytes = some v := by
  rw [parse?, Document.read?_bytes h, Option.bind_some, Document.value?_ofValue v h]

end RemotePlayback.Json
