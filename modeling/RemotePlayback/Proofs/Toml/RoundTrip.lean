import RemotePlayback.Proofs.Table
import RemotePlayback.Proofs.Toml.Lines

/-! A written TOML text is read back.

The reader goes through a text by lines and collects sections (`Reads`), then enters them into a
tree. In a written text every header names a new table and every key of a section is new there, so
that entering is the same plain insertion on both levels (`foldlM_insert`). -/

namespace RemotePlayback.Toml

variable {header : Option Header} {before : List Pair} {s : List Char} {read : List Section}

/-! ## The sections of a text -/

/-- What the reader makes of a text, within a section whose pairs so far are given; it is given
enough fuel. -/
def Reads (header : Option Header) (before : List Pair) (s : List Char) (read : List Section) :
    Prop :=
  ∀ fuel, s.length < fuel → sectionsFrom? fuel header before s = some read

/-- The pairs that have a value, as they are read back. -/
def values (pairs : List (String × Option Plain)) : List (String × Value) :=
  pairs.filterMap fun p => p.2.map fun v => (p.1, v.value)

/-- Pairs whose keys have one part. -/
def plainPairs (entries : List (String × Value)) : List Pair :=
  entries.map fun e => ⟨[], e.1, e.2⟩

/-- The table of the pairs that have a value. -/
def tableOf (pairs : List (String × Option Plain)) : Value := .table (Entries.ofList (values pairs))

/-- A section as it is read back. -/
def plainSection (s : String × List (String × Option Plain)) : Section :=
  ⟨some (.table [] s.1), plainPairs (values s.2)⟩

theorem reads_nil : Reads header before [] [⟨header, before⟩] := by
  intro fuel enough
  obtain ⟨fuel, rfl⟩ := Nat.exists_eq_succ_of_ne_zero (Nat.ne_of_gt enough)
  rfl

theorem reads_newline (next : Reads header before s read) :
    Reads header before ('\n' :: s) read := by
  intro fuel enough
  obtain ⟨fuel, rfl⟩ := Nat.exists_eq_succ_of_ne_zero (Nat.ne_zero_of_lt enough)
  exact next fuel (Nat.lt_of_succ_lt_succ enough)

/-- A line that begins like a key is a pair. -/
theorem sectionsFrom?_bare {c : Char} (first : isBare c = true) (fuel : Nat) (r : List Char) :
    sectionsFrom? (fuel + 1) header before (c :: r) =
      (pair? (c :: r)).bind fun next =>
        sectionsFrom? fuel header (before ++ [next.1]) next.2 := by
  have other {d : Char} {s : List Char} (eq : c :: r = d :: s) : isBare d = true := by
    rwa [← (List.cons.inj eq).1]
  rw [sectionsFrom?.eq_def]
  dsimp only
  rw [skipSpace_cons (isSpace_of_isBare first)]
  split
  · rename_i eq
    cases eq
  · rename_i eq
    cases other eq
  · rename_i eq
    cases other eq
  · rename_i eq
    cases other eq
  · rename_i eq
    cases other eq
  · rfl

theorem reads_pair {key : String} {v : Plain} (bare : IsBareKey key) (fits : v.Fits)
    (next : Reads header (before ++ [⟨[], key, v.value⟩]) s read) :
    Reads header before ((pairText (key, some v)).toList ++ s) read := by
  intro fuel enough
  obtain ⟨fuel, rfl⟩ := Nat.exists_eq_succ_of_ne_zero (Nat.ne_zero_of_lt enough)
  have line := pair?_pairText bare fits s
  obtain ⟨c, r, start, first⟩ := bare_start bare
  obtain ⟨r', eq⟩ : ∃ r', (pairText (key, some v)).toList = c :: r' := by
    simp [pairText, start]
  rw [eq, List.cons_append] at enough line ⊢
  have left : s.length < fuel := by
    rw [List.length_cons, List.length_append] at enough
    omega
  rw [sectionsFrom?_bare first, line]
  exact next fuel left

theorem reads_header {name : String} (bare : IsBareKey name)
    (next : Reads (some (.table [] name)) [] s read) :
    Reads header before ('[' :: (name.toList ++ ']' :: '\n' :: s)) (⟨header, before⟩ :: read) := by
  intro fuel enough
  obtain ⟨fuel, rfl⟩ := Nat.exists_eq_succ_of_ne_zero (Nat.ne_zero_of_lt enough)
  have left : s.length < fuel := by
    simp only [List.length_cons, List.length_append] at enough
    omega
  rw [sectionsFrom?, skipSpace_cons rfl]
  simp only [header?_bare bare, Option.bind_eq_bind, Option.bind_some, next fuel left]
  rfl

theorem reads_pairs {pairs : List (String × Option Plain)} (bare : ∀ p ∈ pairs, IsBareKey p.1)
    (fits : ∀ p ∈ pairs, ∀ v ∈ p.2, v.Fits)
    (next : Reads header (before ++ plainPairs (values pairs)) s read) :
    Reads header before ((String.join (pairs.map pairText)).toList ++ s) read := by
  induction pairs generalizing before with
  | nil => simpa [plainPairs, values] using next
  | cons p pairs ih =>
    obtain ⟨key, v⟩ := p
    have bare' : ∀ p ∈ pairs, IsBareKey p.1 := fun p mem => bare p (List.mem_cons_of_mem _ mem)
    have fits' : ∀ p ∈ pairs, ∀ v ∈ p.2, v.Fits := fun p mem => fits p (List.mem_cons_of_mem _ mem)
    rw [List.map_cons, String.join_cons, String.toList_append, List.append_assoc]
    cases v with
    | none => exact ih bare' fits' next
    | some v =>
      refine reads_pair (bare _ List.mem_cons_self) (fits _ List.mem_cons_self v rfl) ?_
      refine ih bare' fits' ?_
      simpa [plainPairs, values] using next

theorem toList_sectionText (name : String) (pairs : List (String × Option Plain)) :
    (sectionText name pairs).toList =
      '[' :: (name.toList ++ ']' :: '\n' :: (String.join (pairs.map pairText)).toList) := by
  simp [sectionText]

variable {sections : List (String × List (String × Option Plain))}

/-- Behind the lines of a section comes an empty line, unless the section is the last one. -/
theorem toList_write_cons (s : String × List (String × Option Plain)) (sections) :
    ∃ next, (sections = [] ∧ next = [] ∨ next = '\n' :: (write sections).toList) ∧
      (write (s :: sections)).toList = '[' :: (s.1.toList ++ ']' :: '\n' ::
        ((String.join (s.2.map pairText)).toList ++ next)) := by
  cases sections with
  | nil =>
    refine ⟨[], .inl ⟨rfl, rfl⟩, ?_⟩
    have alone : write [s] = sectionText s.1 s.2 := String.intercalate_singleton
    rw [alone, toList_sectionText, List.append_nil]
  | cons t sections =>
    refine ⟨_, .inr rfl, ?_⟩
    have first : write (s :: t :: sections) =
        sectionText s.1 s.2 ++ "\n" ++ write (t :: sections) := String.intercalate_cons_cons
    rw [first, String.toList_append, String.toList_append, toList_sectionText]
    simp

/-- **Sections that can be read back**: names and keys need no quotes and do not repeat, and every
value fits. -/
structure Writable (sections : List (String × List (String × Option Plain))) : Prop where
  bareNames : ∀ s ∈ sections, IsBareKey s.1
  bareKeys : ∀ s ∈ sections, ∀ p ∈ s.2, IsBareKey p.1
  fits : ∀ s ∈ sections, ∀ p ∈ s.2, ∀ v ∈ p.2, v.Fits
  names : (sections.map (·.1)).Nodup
  keys : ∀ s ∈ sections, (s.2.map (·.1)).Nodup

theorem Writable.tail {s : String × List (String × Option Plain)}
    (writable : Writable (s :: sections)) : Writable sections where
  bareNames t mem := writable.bareNames t (List.mem_cons_of_mem _ mem)
  bareKeys t mem := writable.bareKeys t (List.mem_cons_of_mem _ mem)
  fits t mem := writable.fits t (List.mem_cons_of_mem _ mem)
  names := (List.nodup_cons.mp writable.names).2
  keys t mem := writable.keys t (List.mem_cons_of_mem _ mem)

/-- **The sections of a written text are read back.** -/
theorem reads_write (writable : Writable sections) (header : Option Header) (before : List Pair) :
    Reads header before (write sections).toList
      (⟨header, before⟩ :: sections.map plainSection) := by
  induction sections generalizing header before with
  | nil => exact reads_nil
  | cons s sections ih =>
    have ih := ih writable.tail (some (.table [] s.1)) (plainPairs (values s.2))
    obtain ⟨next, last, text⟩ := toList_write_cons s sections
    have reads : Reads (some (.table [] s.1)) (plainPairs (values s.2)) next
        (plainSection s :: sections.map plainSection) := by
      rcases last with ⟨rfl, rfl⟩ | rfl
      · exact ih
      · exact reads_newline ih
    rw [text]
    refine reads_header (writable.bareNames s List.mem_cons_self) ?_
    exact reads_pairs (writable.bareKeys s List.mem_cons_self)
      (writable.fits s List.mem_cons_self) reads

theorem sections?_write (writable : Writable sections) :
    sections? (write sections).toList = some (⟨none, []⟩ :: sections.map plainSection) := by
  have read := reads_write writable none [] _ (Nat.lt_succ_self _)
  -- a written text does not begin with a byte order mark
  cases sections with
  | nil => exact read
  | cons s sections =>
    obtain ⟨next, -, text⟩ := toList_write_cons s sections
    rw [text] at read ⊢
    exact read

/-! ## The tree of a text -/

open Entries Node

/-- Enters one thing after the other where each is new. -/
theorem foldlM_insert {α : Type} {enter : Contents → α → Option Contents} {key : α → String}
    {node : α → Node} {l : List α} (distinct : (l.map key).Nodup)
    (new : ∀ a ∈ l, ∀ t, find? (key a) t = none →
      enter t a = some (insert (key a) (node a) t)) :
    ∀ t : Contents, (∀ a ∈ l, find? (key a) t = none) →
      l.foldlM enter t = some (l.foldl (fun t a => insert (key a) (node a) t) t) := by
  induction l with
  | nil => exact fun t _ => rfl
  | cons a l ih =>
    intro t absent
    obtain ⟨other, distinct⟩ := List.nodup_cons.mp distinct
    have rest (b : α) (mem : b ∈ l) : find? (key b) (insert (key a) (node a) t) = none := by
      have ne : key b ≠ key a := fun eq => other (eq ▸ List.mem_map_of_mem mem)
      rw [find?_insert, if_neg ne]
      exact absent b (List.mem_cons_of_mem a mem)
    rw [List.foldlM_cons, new a List.mem_cons_self t (absent a List.mem_cons_self)]
    exact ih distinct (fun b mem => new b (List.mem_cons_of_mem a mem)) _ rest

theorem toValues_insert (key : String) (node : Node) (t : Contents) :
    toValues (insert key node t) = insert key node.toValue (toValues t) := by
  induction t with
  | nil => rfl
  | cons e t ih =>
    obtain ⟨k, n⟩ := e
    simp only [Entries.insert, toValues]
    split
    · rfl
    split
    · rfl
    · rw [toValues, ih]

theorem toValues_foldl_insert {α : Type} (key : α → String) (node : α → Node) (l : List α) :
    toValues (l.foldl (fun t a => insert (key a) (node a) t) []) =
      ofList (l.map fun a => (key a, (node a).toValue)) := by
  have entered (t : Contents) : toValues (l.foldl (fun t a => insert (key a) (node a) t) t) =
      l.foldl (fun t a => insert (key a) (node a).toValue t) (toValues t) := by
    induction l generalizing t with
    | nil => rfl
    | cons a l ih => rw [List.foldl_cons, List.foldl_cons, ih, toValues_insert]
  rw [entered, ofList, List.foldl_map]
  rfl

theorem nodup_values {pairs : List (String × Option Plain)} (distinct : (pairs.map (·.1)).Nodup) :
    ((values pairs).map (·.1)).Nodup := by
  have kept : ((values pairs).map (·.1)).Sublist (pairs.map (·.1)) := by
    induction pairs with
    | nil => exact .slnil
    | cons p pairs ih =>
      have ih := ih (List.nodup_cons.mp distinct).2
      obtain ⟨key, _ | v⟩ := p
      · exact ih.cons _
      · exact ih.cons_cons _
  exact distinct.sublist kept

/-- The nodes of a section. -/
def plainNodes (entries : List (String × Value)) : Contents :=
  entries.foldl (fun t e => insert e.1 (.value e.2) t) []

theorem fill?_plainPairs {entries : List (String × Value)}
    (distinct : (entries.map (·.1)).Nodup) :
    Section.fill? (plainPairs entries) [] = some (plainNodes entries) := by
  rw [Section.fill?, plainPairs, List.foldlM_map]
  refine foldlM_insert distinct (fun e _ t absent => ?_) [] fun _ _ => rfl
  rw [Node.enter?, absent]

theorem toValues_plainNodes (entries : List (String × Value)) :
    toValues (plainNodes entries) = ofList entries := by
  rw [plainNodes, toValues_foldl_insert]
  exact congrArg ofList (List.map_id' entries)

/-- **A written text is read back**: as the table of its sections, each of which is the table of its
pairs with a value. -/
theorem read?_write (writable : Writable sections) : read? (write sections) =
    some (.table (ofList (sections.map fun s => (s.1, tableOf s.2)))) := by
  have entered : (⟨none, []⟩ :: sections.map plainSection).foldlM Section.enter? [] = some
      (sections.foldl (fun t s => insert s.1 (.table .headed (plainNodes (values s.2))) t) []) := by
    -- there are no pairs in front of the first header
    show (sections.map plainSection).foldlM Section.enter? [] = _
    rw [List.foldlM_map]
    refine foldlM_insert writable.names (fun s mem t absent => ?_) [] fun _ _ => rfl
    have filled := fill?_plainPairs (nodup_values (writable.keys s mem))
    show openTable? (Section.fill? (plainPairs (values s.2))) s.1 t = _
    rw [openTable?, absent, filled]
    rfl
  rw [read?, sections?_write writable, Option.bind_eq_bind, Option.bind_some, entered,
    Option.bind_eq_bind, Option.bind_some, toValues_foldl_insert]
  simp only [toValue, toValues_plainNodes]
  rfl

/-! ## Looking up what was read -/

variable {pairs : List (String × Option Plain)} {key : String} {v : Option Plain}

/-- **Under the key of a pair is its value**, and nothing if it has none. -/
theorem find?_values (distinct : (pairs.map (·.1)).Nodup) (mem : (key, v) ∈ pairs) :
    find? key (ofList (values pairs)) = v.map Plain.value := by
  rw [find?_ofList (nodup_values distinct)]
  have written : find? key pairs = some v := find?_eq_some_of_mem distinct mem
  cases v with
  | some v =>
    have kept : (key, v.value) ∈ values pairs := List.mem_filterMap.mpr ⟨_, mem, rfl⟩
    exact find?_eq_some_of_mem (nodup_values distinct) kept
  | none =>
    refine find?_eq_none fun present => ?_
    obtain ⟨e, kept, rfl⟩ := List.mem_map.mp present
    obtain ⟨⟨key', v'⟩, mem', eq⟩ := List.mem_filterMap.mp kept
    obtain ⟨v'', rfl, rfl⟩ := Option.map_eq_some_iff.mp eq
    rw [find?_eq_some_of_mem distinct mem'] at written
    cases written

end RemotePlayback.Toml
