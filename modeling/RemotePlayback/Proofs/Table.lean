import RemotePlayback.Table

/-! Entries in any order.

A table does not remember the order in which its entries were entered: entering each key once, in
any order, makes the same table. -/

namespace RemotePlayback

namespace Entries

variable {α : Type} {l l' : List (String × α)} {k : String}

theorem sorted_iff_keys : Sorted l ↔ (l.map (·.1)).Pairwise (· < ·) := List.pairwise_map.symm

/-- Sorted keys are distinct. -/
theorem Sorted.nodup_keys (h : Sorted l) : (l.map (·.1)).Nodup := by
  refine List.Pairwise.map _ ?_ h
  rintro a b below same
  exact String.lt_irrefl _ (same ▸ below)

theorem find?_eq_none (absent : k ∉ l.map (·.1)) : find? k l = none := by
  induction l with
  | nil => rfl
  | cons e l ih =>
    rw [List.map_cons, List.mem_cons, not_or] at absent
    rw [find?, if_neg absent.1]
    exact ih absent.2

/-- A value is found under its key. -/
theorem find?_eq_some_of_mem (distinct : (l.map (·.1)).Nodup) {v : α} (mem : (k, v) ∈ l) :
    find? k l = some v := by
  induction l with
  | nil => cases mem
  | cons e l ih =>
    obtain ⟨new, distinct⟩ := List.nodup_cons.mp distinct
    rcases List.mem_cons.mp mem with rfl | mem
    · rw [find?, if_pos rfl]
    · have other : k ≠ e.1 := by
        rintro rfl
        exact new (List.mem_map_of_mem (f := (·.1)) mem)
      rw [find?, if_neg other]
      exact ih distinct mem

/-- What is found does not depend on the order of the entries. -/
theorem find?_perm (perm : l.Perm l') (distinct : (l.map (·.1)).Nodup) (k : String) :
    find? k l = find? k l' := by
  have distinct' := ((perm.map (·.1)).nodup_iff).mp distinct
  by_cases present : k ∈ l.map (·.1)
  · obtain ⟨⟨k, v⟩, mem, rfl⟩ := List.mem_map.mp present
    rw [find?_eq_some_of_mem distinct mem, find?_eq_some_of_mem distinct' (perm.mem_iff.mp mem)]
  · have absent : k ∉ l'.map (·.1) := fun mem => present ((perm.map (·.1)).mem_iff.mpr mem)
    rw [find?_eq_none present, find?_eq_none absent]

/-- What is found after entries were entered, each key once. -/
theorem find?_foldl_insert (distinct : (l.map (·.1)).Nodup) (t : List (String × α)) (k : String) :
    find? k (l.foldl (fun t e => insert e.1 e.2 t) t) = (find? k l).or (find? k t) := by
  induction l generalizing t with
  | nil => rfl
  | cons e l ih =>
    obtain ⟨new, distinct⟩ := List.nodup_cons.mp distinct
    rw [List.foldl_cons, ih distinct, find?_insert, find?]
    by_cases same : k = e.1
    · rw [if_pos same, if_pos same, same, find?_eq_none new]
      rfl
    · rw [if_neg same, if_neg same]

/-- Entries with distinct keys are all found. -/
theorem find?_ofList (distinct : (l.map (·.1)).Nodup) (k : String) :
    find? k (ofList l) = find? k l := by
  rw [ofList, find?_foldl_insert distinct, find?, Option.or_none]

/-! ### Images -/

section Images

variable {β : Type} (f : α → β)

theorem find?_map (l : List (String × α)) (k : String) :
    find? k (l.map fun e => (e.1, f e.2)) = (find? k l).map f := by
  induction l with
  | nil => rfl
  | cons e l ih =>
    rw [List.map_cons, find?, find?, ih]
    split <;> rfl

theorem insert_map (k : String) (v : α) (l : List (String × α)) :
    insert k (f v) (l.map fun e => (e.1, f e.2)) = (insert k v l).map fun e => (e.1, f e.2) := by
  induction l with
  | nil => rfl
  | cons e l ih =>
    rw [List.map_cons, insert, insert, ih]
    split
    · rfl
    · split <;> rfl

theorem foldl_insert_map (l t : List (String × α)) :
    l.foldl (fun t e => insert e.1 (f e.2) t) (t.map fun e => (e.1, f e.2)) =
      (l.foldl (fun t e => insert e.1 e.2 t) t).map fun e => (e.1, f e.2) := by
  induction l generalizing t with
  | nil => rfl
  | cons e l ih => rw [List.foldl_cons, List.foldl_cons, insert_map, ih]

/-- The images of entries are entered as the entries are. -/
theorem ofList_map (l : List (String × α)) :
    ofList (l.map fun e => (e.1, f e.2)) = (ofList l).map fun e => (e.1, f e.2) := by
  rw [ofList, List.foldl_map]
  exact foldl_insert_map f l []

end Images

end Entries

namespace Table

variable {α β : Type}

/-- What is found after entries were entered, each key once. -/
theorem find?_foldl_insert {l : List (String × α)} (distinct : (l.map (·.1)).Nodup) (t : Table α)
    (k : String) :
    (l.foldl (fun t e => t.insert e.1 e.2) t).find? k = (Entries.find? k l).or (t.find? k) := by
  have entries : (l.foldl (fun t e => t.insert e.1 e.2) t).entries =
      l.foldl (fun t e => Entries.insert e.1 e.2 t) t.entries :=
    (List.foldl_hom Table.entries fun _ _ => rfl).symm
  rw [find?, entries, Entries.find?_foldl_insert distinct]
  rfl

/-- **The entries of a table make it up in any order.** -/
theorem foldl_insert_perm {l : List (String × α)} {t : Table α} (perm : l.Perm t.entries) :
    l.foldl (fun t e => t.insert e.1 e.2) empty = t := by
  have distinct := ((perm.map (·.1)).nodup_iff).mpr t.sorted.nodup_keys
  apply ext_find?
  intro k
  rw [find?_foldl_insert distinct, Entries.find?_perm perm distinct, find?_empty, Option.or_none]
  rfl

/-- The images of the entries make up the image of the table. -/
theorem foldl_insert_map {l : List (String × α)} {t : Table α} (f : α → β)
    (perm : l.Perm t.entries) :
    l.foldl (fun t e => t.insert e.1 (f e.2)) empty = t.map f := by
  have images : (l.map fun e => (e.1, f e.2)).Perm (t.map f).entries := perm.map _
  rw [← foldl_insert_perm images, List.foldl_map]

@[simp] theorem map_id (t : Table α) : t.map id = t := ext (List.map_id _)

@[simp] theorem map_id' (t : Table α) : t.map (fun v => v) = t := map_id t

end Table

end RemotePlayback
