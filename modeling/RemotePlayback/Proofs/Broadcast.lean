import RemotePlayback.Simulation.Scenario

/-! What a receiver hears of notifications that are kept in limited number.

Whoever sends does not wait for the receivers, and the last values sent are kept for each of them. A
receiver that looks often enough hears every value, in the order of sending. One that does not is
told how many of the oldest values it has missed and goes on with those that are kept. When it looks
is up to nobody here: a schedule says in which order values are sent and the receiver looks, and all
statements are about every schedule. -/

namespace RemotePlayback.Broadcast

open Simulation (kept received)

/-- What happens next: a value is sent, or the receiver looks. -/
inductive Turn (α : Type) where
  | sent (x : α)
  | look

/-- What a receiver hears when it looks. -/
inductive Heard (α : Type) where
  | value (x : α)
  /-- So many values were missed. -/
  | lost (n : Nat)

/-- **A receiver**: the values that are kept for it, and how many it has missed without being told.
A new receiver has nothing to hear. -/
structure Receiver (α : Type) where
  waiting : List α := []
  missed : Nat := 0

variable {α : Type} {r : Receiver α} {turns : List (Turn α)}

namespace Receiver

/-- A value is sent; if too many are kept already, the oldest one goes. -/
def send (r : Receiver α) (x : α) : Receiver α :=
  if r.waiting.length < kept then { r with waiting := r.waiting ++ [x] }
  else ⟨r.waiting.tail ++ [x], r.missed + 1⟩

/-- The receiver looks, and hears what it has missed before anything else. -/
def look (r : Receiver α) : List (Heard α) × Receiver α :=
  match r.missed, r.waiting with
  | 0, [] => ([], r)
  | 0, x :: rest => ([.value x], { r with waiting := rest })
  | n + 1, _ => ([.lost (n + 1)], { r with missed := 0 })

/-- What is heard in the course of a schedule, and the receiver after it. -/
def follow (r : Receiver α) : List (Turn α) → List (Heard α) × Receiver α
  | [] => ([], r)
  | .sent x :: turns => (r.send x).follow turns
  | .look :: turns => (r.look.1 ++ (r.look.2.follow turns).1, (r.look.2.follow turns).2)

end Receiver

/-- The values sent in the course of a schedule. -/
def sent (turns : List (Turn α)) : List α :=
  turns.filterMap fun
    | .sent x => some x
    | .look => none

@[simp] theorem sent_nil : sent ([] : List (Turn α)) = [] := rfl

@[simp] theorem sent_sent (x : α) (turns : List (Turn α)) :
    sent (.sent x :: turns) = x :: sent turns := rfl

@[simp] theorem sent_look (turns : List (Turn α)) : sent (.look :: turns) = sent turns := rfl

theorem sent_append (turns turns' : List (Turn α)) :
    sent (turns ++ turns') = sent turns ++ sent turns' := List.filterMap_append

theorem sent_map (xs : List α) : sent (xs.map .sent) = xs := by
  rw [sent, List.filterMap_map]
  exact List.filterMap_some

theorem sent_looks (k : Nat) : sent (List.replicate k (.look : Turn α)) = [] := by
  induction k with
  | zero => rfl
  | succ k ih => rwa [List.replicate_succ, sent_look]

theorem Receiver.follow_append (r : Receiver α) (turns turns' : List (Turn α)) :
    r.follow (turns ++ turns') =
      ((r.follow turns).1 ++ ((r.follow turns).2.follow turns').1,
        ((r.follow turns).2.follow turns').2) := by
  induction turns generalizing r with
  | nil => rfl
  | cons t turns ih =>
    cases t with
    | sent x => exact ih (r.send x)
    | look =>
      have rest := ih r.look.2
      rw [List.cons_append, Receiver.follow, Receiver.follow, rest, List.append_assoc]

/-! ## A receiver that keeps up -/

/-- **The receiver keeps up** in the course of a schedule: nothing is sent while as many values wait
for it as are kept. At first so many wait. -/
def KeepsUp : Nat → List (Turn α) → Prop
  | _, [] => True
  | waiting, .sent _ :: turns => waiting < kept ∧ KeepsUp (waiting + 1) turns
  | waiting, .look :: turns => KeepsUp (waiting - 1) turns

/-- Whoever is sent no more than is kept keeps up, whenever it looks. -/
theorem keepsUp_of_length_le {waiting : Nat} (few : waiting + (sent turns).length ≤ kept) :
    KeepsUp waiting turns := by
  induction turns generalizing waiting with
  | nil => trivial
  | cons t turns ih =>
    cases t with
    | sent x =>
      rw [sent_sent, List.length_cons] at few
      exact ⟨by omega, ih (by omega)⟩
    | look =>
      rw [sent_look] at few
      exact ih (by omega)

/-- **Whoever keeps up hears every value**, once and in order; what it has not heard yet is still
kept. -/
theorem KeepsUp.follow (upToDate : r.missed = 0) (keepsUp : KeepsUp r.waiting.length turns) :
    ∃ got, (r.follow turns).1 = got.map .value ∧ (r.follow turns).2.missed = 0 ∧
      got ++ (r.follow turns).2.waiting = r.waiting ++ sent turns := by
  induction turns generalizing r with
  | nil => exact ⟨[], rfl, upToDate, by simp [Receiver.follow]⟩
  | cons t turns ih =>
    obtain ⟨waiting, missed⟩ := r
    cases upToDate
    cases t with
    | sent x =>
      obtain ⟨room, keepsUp⟩ := keepsUp
      have next : (⟨waiting, 0⟩ : Receiver α).send x = ⟨waiting ++ [x], 0⟩ := if_pos room
      obtain ⟨got, heard, none, all⟩ := ih (r := ⟨waiting ++ [x], 0⟩) rfl
        (by rwa [List.length_append])
      rw [Receiver.follow, next]
      exact ⟨got, heard, none, by rw [all, List.append_assoc]; rfl⟩
    | look =>
      rw [Receiver.follow]
      cases waiting with
      | nil => exact ih (r := ⟨[], 0⟩) rfl keepsUp
      | cons x rest =>
        obtain ⟨got, heard, none, all⟩ := ih (r := ⟨rest, 0⟩) rfl keepsUp
        refine ⟨x :: got, ?_, none, congrArg (x :: ·) all⟩
        rw [List.map_cons, ← heard]
        rfl

/-! ## Any receiver -/

/-- **What is heard tells of values**: of each that is heard itself, and of as many as are said to
be missed. -/
inductive Tells : List (Heard α) → List α → Prop where
  | nil : Tells [] []
  | value (x : α) {heard : List (Heard α)} {told : List α} (rest : Tells heard told) :
    Tells (.value x :: heard) (x :: told)
  | lost (gone : List α) {heard : List (Heard α)} {told : List α} (rest : Tells heard told) :
    Tells (.lost gone.length :: heard) (gone ++ told)

/-- As many values wait as are kept, if any was missed. -/
structure Full (r : Receiver α) : Prop where
  bounded : r.waiting.length ≤ kept
  full : 0 < r.missed → r.waiting.length = kept

theorem full_new : Full ({} : Receiver α) := ⟨Nat.zero_le _, nofun⟩

theorem Full.send (h : Full r) (x : α) : Full (r.send x) := by
  have some : 0 < kept := by decide
  obtain ⟨bounded, full⟩ := h
  unfold Receiver.send
  split
  · refine ⟨by simp; omega, fun missed => ?_⟩
    have := full missed
    omega
  · constructor <;> simp <;> omega

theorem Full.look (h : Full r) : Full r.look.2 := by
  obtain ⟨bounded, full⟩ := h
  unfold Receiver.look
  split
  · exact ⟨bounded, full⟩
  · rename_i missed waiting
    rw [waiting, List.length_cons] at bounded
    exact ⟨Nat.le_of_succ_le bounded, fun some => absurd (missed ▸ some) (Nat.lt_irrefl 0)⟩
  · exact ⟨bounded, nofun⟩

theorem Full.follow (h : Full r) (turns : List (Turn α)) : Full (r.follow turns).2 := by
  induction turns generalizing r with
  | nil => exact h
  | cons t turns ih =>
    cases t with
    | sent x => exact ih (h.send x)
    | look => exact ih h.look

/-- **Nothing is passed over in silence.** Whatever the schedule, what is heard tells of the values
in the order of sending; behind them come the values that were missed and not yet told of, and then
those that are kept. -/
theorem follow_tells (turns : List (Turn α)) (full : Full r) (gone : List α)
    (size : gone.length = r.missed) :
    ∃ told gone', Tells (r.follow turns).1 told ∧ gone'.length = (r.follow turns).2.missed ∧
      told ++ gone' ++ (r.follow turns).2.waiting = gone ++ r.waiting ++ sent turns := by
  induction turns generalizing r gone with
  | nil => exact ⟨[], gone, .nil, size, by simp [Receiver.follow]⟩
  | cons t turns ih =>
    obtain ⟨waiting, missed⟩ := r
    cases t with
    | sent x =>
      have next := full.send x
      rw [Receiver.follow]
      unfold Receiver.send at next ⊢
      split
      · rename_i room
        rw [if_pos room] at next
        obtain ⟨told, gone', tells, size', all⟩ := ih next gone size
        exact ⟨told, gone', tells, size', by rw [all]; simp⟩
      · rename_i room
        rw [if_neg room] at next
        -- the oldest value that waits joins those that were missed
        cases waiting with
        | nil => exact absurd (by decide : 0 < kept) room
        | cons y rest =>
          obtain ⟨told, gone', tells, size', all⟩ := ih next (gone ++ [y]) (by simp [size])
          exact ⟨told, gone', tells, size', by rw [all]; simp⟩
    | look =>
      have next := full.look
      rw [Receiver.follow]
      cases missed with
      | zero =>
        obtain rfl := List.eq_nil_of_length_eq_zero size
        cases waiting with
        | nil => exact ih next [] rfl
        | cons x rest =>
          obtain ⟨told, gone', tells, size', all⟩ := ih next [] rfl
          exact ⟨x :: told, gone', .value x tells, size', congrArg (x :: ·) all⟩
      | succ n =>
        obtain ⟨told, gone', tells, size', all⟩ := ih next [] rfl
        refine ⟨gone ++ told, gone', ?_, size', ?_⟩
        · have lost := Tells.lost gone tells
          rwa [size] at lost
        · rw [List.append_assoc, List.append_assoc, ← List.append_assoc told, all]
          simp [Receiver.look]

/-! ## A receiver that looks too late -/

/-- What is heard of a loss, if there was one. -/
def lossOf (n : Nat) : List (Heard α) := if n = 0 then [] else [.lost n]

/-- Of what is sent while nobody looks, the last values are kept. -/
theorem follow_unseen (full : Full r) (xs : List α) :
    r.follow (xs.map .sent) = ([],
      ⟨(r.waiting ++ xs).drop ((r.waiting ++ xs).length - kept),
        r.missed + ((r.waiting ++ xs).length - kept)⟩) := by
  induction xs generalizing r with
  | nil =>
    have fits : (r.waiting ++ []).length - kept = 0 := by
      have := full.bounded
      simp
      omega
    rw [List.map_nil, Receiver.follow, fits, List.drop_zero, List.append_nil]
    rfl
  | cons x xs ih =>
    have next := ih (full.send x)
    rw [List.map_cons, Receiver.follow, next]
    unfold Receiver.send
    split
    · simp
    · rename_i noRoom
      have atLimit : r.waiting.length = kept :=
        Nat.le_antisymm full.bounded (Nat.le_of_not_lt noRoom)
      obtain ⟨waiting, missed⟩ := r
      cases waiting with
      | nil => exact absurd (by decide : 0 < kept) noRoom
      | cons y rest =>
        -- one value more is missed than of what comes behind the oldest one
        have one : (y :: (rest ++ x :: xs)).length - kept =
            (rest ++ x :: xs).length - kept + 1 := by
          simp at atLimit ⊢
          omega
        simp only [List.tail_cons, List.append_assoc, List.cons_append, List.nil_append, one,
          List.drop_succ_cons]
        rw [Nat.add_assoc, Nat.add_comm 1]

/-- Looking often enough brings all that is kept. -/
theorem follow_looks (r : Receiver α) {k : Nat} (enough : r.waiting.length < k) :
    r.follow (List.replicate k .look) = (lossOf r.missed ++ r.waiting.map .value, {}) := by
  have upToDate (waiting : List α) {k : Nat} (enough : waiting.length ≤ k) :
      (⟨waiting, 0⟩ : Receiver α).follow (List.replicate k .look) =
        (waiting.map .value, {}) := by
    induction k generalizing waiting with
    | zero =>
      obtain rfl := List.eq_nil_of_length_eq_zero (Nat.le_zero.mp enough)
      rfl
    | succ k ih =>
      rw [List.replicate_succ, Receiver.follow]
      cases waiting with
      | nil => exact ih [] (Nat.zero_le _)
      | cons x rest =>
        have more := ih rest (Nat.le_of_succ_le_succ enough)
        simp only [Receiver.look, more]
        rfl
  obtain ⟨waiting, missed⟩ := r
  cases missed with
  | zero => exact upToDate waiting (Nat.le_of_lt enough)
  | succ n =>
    obtain ⟨k, rfl⟩ : ∃ j, k = j + 1 := ⟨k - 1, by omega⟩
    have more := upToDate waiting (Nat.le_of_lt_succ enough)
    rw [List.replicate_succ, Receiver.follow]
    simp only [Receiver.look, more]
    rfl

/-- **A receiver that looks when all is sent** hears how many values it missed, and the rest. -/
theorem follow_late (xs : List α) {k : Nat} (enough : kept < k) :
    (({} : Receiver α).follow (xs.map .sent ++ List.replicate k .look)) =
      (lossOf (received xs).1 ++ (received xs).2.map .value, {}) := by
  rw [Receiver.follow_append, follow_unseen full_new]
  have few : (([] ++ xs).drop (([] ++ xs).length - kept)).length < k := by
    rw [List.length_drop]
    omega
  rw [follow_looks _ few]
  simp [received]

end RemotePlayback.Broadcast
