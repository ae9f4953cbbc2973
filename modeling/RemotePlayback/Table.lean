/-!
Finite maps from texts, kept as their entries in the order of the keys.

The order is that of the code points, which is also the order of the UTF-8 encodings. As the
entries of one map have one order, two tables are equal exactly when they hold the same entries
(`Table.ext_find?`), and writing a table out never depends on the history of its entries. The
operations live on plain entry lists (`Entries`), for types that hold a map of themselves; `Table`
packs such a list with the proof of its order.
-/

namespace RemotePlayback

namespace Entries

variable {α : Type}

/-- Strictly increasing keys. -/
def Sorted (l : List (String × α)) : Prop := l.Pairwise (fun a b => a.1 < b.1)

/-- Enters a value under a key; an earlier value of the key is dropped. -/
def insert (k : String) (v : α) : List (String × α) → List (String × α)
  | [] => [(k, v)]
  | (k', v') :: rest =>
    if k < k' then (k, v) :: (k', v') :: rest
    else if k = k' then (k, v) :: rest
    else (k', v') :: insert k v rest

/-- The value under a key. -/
def find? (k : String) : List (String × α) → Option α
  | [] => none
  | (k', v) :: rest => if k = k' then some v else find? k rest

/-- Enters all entries of a list, the last of a repeated key winning. -/
def ofList (l : List (String × α)) : List (String × α) :=
  l.foldl (fun acc e => insert e.1 e.2 acc) []

theorem lt_of_not_lt {a b : String} (h : ¬ a < b) (h' : a ≠ b) : b < a :=
  Decidable.byContradiction fun hb =>
    h' (String.le_antisymm (String.not_lt.mp hb) (String.not_lt.mp h))

theorem mem_insert {k : String} {v : α} {l : List (String × α)} {e : String × α}
    (h : e ∈ insert k v l) : e = (k, v) ∨ e ∈ l := by
  induction l with
  | nil => simpa [insert] using h
  | cons x l ih =>
    obtain ⟨k', v'⟩ := x
    simp only [insert] at h
    split at h
    · simpa using h
    · split at h
      · rcases List.mem_cons.mp h with h | h
        · exact .inl h
        · exact .inr (List.mem_cons_of_mem _ h)
      · rcases List.mem_cons.mp h with h | h
        · exact .inr (h ▸ List.mem_cons_self)
        · exact (ih h).imp_right (List.mem_cons_of_mem _)

theorem sorted_insert {l : List (String × α)} (h : Sorted l) (k : String) (v : α) :
    Sorted (insert k v l) := by
  induction l with
  | nil => simp [insert, Sorted]
  | cons x l ih =>
    obtain ⟨k', v'⟩ := x
    obtain ⟨hx, hl⟩ := List.pairwise_cons.mp h
    simp only [insert]
    split
    · rename_i hlt
      refine List.pairwise_cons.mpr ⟨fun e he => ?_, h⟩
      rcases List.mem_cons.mp he with rfl | he
      · exact hlt
      · exact String.lt_trans hlt (hx e he)
    · rename_i hnlt
      split
      · rename_i heq
        subst heq
        exact List.pairwise_cons.mpr ⟨hx, hl⟩
      · rename_i hne
        refine List.pairwise_cons.mpr ⟨fun e he => ?_, ih hl⟩
        rcases mem_insert he with rfl | he
        · exact lt_of_not_lt hnlt hne
        · exact hx e he

theorem sorted_ofList (l : List (String × α)) : Sorted (ofList l) := by
  have go : ∀ (l acc : List (String × α)), Sorted acc →
      Sorted (l.foldl (fun acc e => insert e.1 e.2 acc) acc) := by
    intro l
    induction l with
    | nil => exact fun acc h => h
    | cons e l ih => exact fun acc h => ih _ (sorted_insert h _ _)
  exact go l [] List.Pairwise.nil

/-- Only what is in a list is entered from it. -/
theorem mem_ofList {l : List (String × α)} {e : String × α} (h : e ∈ ofList l) : e ∈ l := by
  have go : ∀ (l acc : List (String × α)), e ∈ l.foldl (fun acc e => insert e.1 e.2 acc) acc →
      e ∈ acc ∨ e ∈ l := by
    intro l
    induction l with
    | nil => exact fun acc h => .inl h
    | cons x l ih =>
      intro acc h
      rcases ih _ h with h | h
      · rcases mem_insert h with rfl | h
        · exact .inr List.mem_cons_self
        · exact .inl h
      · exact .inr (List.mem_cons_of_mem _ h)
  exact (go l [] h).resolve_left List.not_mem_nil

theorem find?_insert (k k' : String) (v : α) (l : List (String × α)) :
    find? k' (insert k v l) = if k' = k then some v else find? k' l := by
  induction l with
  | nil => simp [insert, find?]
  | cons x l ih =>
    obtain ⟨k'', v''⟩ := x
    simp only [insert]
    split
    · simp [find?]
    · split
      · rename_i heq
        subst heq
        by_cases h : k' = k <;> simp [find?, h]
      · rename_i hne
        by_cases h : k' = k'' <;> by_cases h' : k' = k <;> simp_all [find?]

/-- A key below the first one has no value. -/
theorem find?_eq_none_of_lt {k : String} {l : List (String × α)}
    (h : ∀ e ∈ l, k < e.1) : find? k l = none := by
  induction l with
  | nil => rfl
  | cons x l ih =>
    have hx := h x List.mem_cons_self
    have : k ≠ x.1 := fun he => String.lt_irrefl _ (he ▸ hx)
    simp [find?, this, ih fun e he => h e (List.mem_cons_of_mem _ he)]

/-- Sorted entry lists with the same values are the same list. -/
theorem eq_of_find?_eq {l m : List (String × α)} (hl : Sorted l) (hm : Sorted m)
    (h : ∀ k, find? k l = find? k m) : l = m := by
  induction l generalizing m with
  | nil =>
    cases m with
    | nil => rfl
    | cons y m => simpa [find?] using h y.1
  | cons x l ih =>
    obtain ⟨hx, hl⟩ := List.pairwise_cons.mp hl
    cases m with
    | nil => simpa [find?] using h x.1
    | cons y m =>
      obtain ⟨hy, hm'⟩ := List.pairwise_cons.mp hm
      have hkey : x.1 = y.1 := by
        apply Decidable.byContradiction
        intro hne
        by_cases hlt : x.1 < y.1
        · have h1 : find? x.1 (y :: m) = none := find?_eq_none_of_lt fun e he => by
            rcases List.mem_cons.mp he with rfl | he
            · exact hlt
            · exact String.lt_trans hlt (hy e he)
          have := (h x.1).trans h1
          simp [find?] at this
        · have hgt := lt_of_not_lt hlt hne
          have h1 : find? y.1 (x :: l) = none := find?_eq_none_of_lt fun e he => by
            rcases List.mem_cons.mp he with rfl | he
            · exact hgt
            · exact String.lt_trans hgt (hx e he)
          have := h1.symm.trans (h y.1)
          simp [find?] at this
      have hval : x = y := by
        have := h x.1
        simp only [find?, hkey, ↓reduceIte, Option.some.injEq] at this
        exact Prod.ext hkey this
      subst hval
      congr 1
      apply ih hl hm'
      intro k
      by_cases hk : k = x.1
      · subst hk
        rw [find?_eq_none_of_lt hx, find?_eq_none_of_lt hy]
      · simpa [find?, hk] using h k

/-- Entering a key above all others puts it last. -/
theorem insert_eq_append {k : String} {v : α} {l : List (String × α)}
    (h : ∀ e ∈ l, e.1 < k) : insert k v l = l ++ [(k, v)] := by
  induction l with
  | nil => rfl
  | cons x l ih =>
    have hx := h x List.mem_cons_self
    have h1 : ¬ k < x.1 := String.lt_asymm hx
    have h2 : k ≠ x.1 := fun he => String.lt_irrefl _ (he ▸ hx)
    simp [insert, h1, h2, ih fun e he => h e (List.mem_cons_of_mem _ he)]

/-- Entering the entries of a sorted list one after the other builds that list. -/
theorem ofList_eq_self {l : List (String × α)} (h : Sorted l) : ofList l = l := by
  have go : ∀ (l acc : List (String × α)), Sorted (acc ++ l) →
      l.foldl (fun acc e => insert e.1 e.2 acc) acc = acc ++ l := by
    intro l
    induction l with
    | nil => intro acc _; simp
    | cons e l ih =>
      intro acc hs
      have hlt : ∀ x ∈ acc, x.1 < e.1 := fun x hx =>
        (List.pairwise_append.mp hs).2.2 x hx e List.mem_cons_self
      rw [List.foldl_cons, insert_eq_append hlt, ih _ (by simpa using hs)]
      simp
  exact go l [] (by simpa using h)

end Entries

/-- A finite map from texts to values. -/
structure Table (α : Type) where
  entries : List (String × α)
  sorted : Entries.Sorted entries

namespace Table

variable {α β : Type}

/-- The map without entries. -/
def empty : Table α := ⟨[], List.Pairwise.nil⟩

instance : Inhabited (Table α) := ⟨empty⟩

instance [DecidableEq α] : DecidableEq (Table α) := fun s t =>
  if h : s.entries = t.entries then
    isTrue (by cases s; cases t; simp_all)
  else isFalse (fun he => h (he ▸ rfl))

/-- Enters a value under a key; an earlier value of the key is dropped. -/
def insert (t : Table α) (k : String) (v : α) : Table α :=
  ⟨Entries.insert k v t.entries, Entries.sorted_insert t.sorted k v⟩

/-- The value under a key. -/
def find? (t : Table α) (k : String) : Option α := Entries.find? k t.entries

/-- Whether a key has a value. -/
def contains (t : Table α) (k : String) : Bool := (t.find? k).isSome

/-- The map with the entries of a list, the last of a repeated key winning. -/
def ofList (l : List (String × α)) : Table α := ⟨Entries.ofList l, Entries.sorted_ofList l⟩

/-- How many keys have a value. -/
def size (t : Table α) : Nat := t.entries.length

theorem ext {s t : Table α} (h : s.entries = t.entries) : s = t := by
  cases s; cases t; simp_all

/-- Tables with the same values are equal. -/
theorem ext_find? {s t : Table α} (h : ∀ k, s.find? k = t.find? k) : s = t :=
  ext (Entries.eq_of_find?_eq s.sorted t.sorted h)

@[simp] theorem find?_empty (k : String) : (empty : Table α).find? k = none := rfl

theorem find?_insert (t : Table α) (k k' : String) (v : α) :
    (t.insert k v).find? k' = if k' = k then some v else t.find? k' :=
  Entries.find?_insert k k' v t.entries

theorem ofList_entries (t : Table α) : ofList t.entries = t :=
  ext (Entries.ofList_eq_self t.sorted)

/-- Replaces each value by its image. -/
def map (f : α → β) (t : Table α) : Table β :=
  ⟨t.entries.map (fun e => (e.1, f e.2)), by
    simpa [Entries.Sorted, List.pairwise_map] using t.sorted⟩

end Table

end RemotePlayback
