import RemotePlayback.Session.Connection

/-! What a connection still has to write.

Frames wait in the queue and, when it is full, behind it. Seen together these are one list, to which
frames are handed over at its end and from which the writer takes the first one. One lemma for each
operation says what it does to that list and to the frame that is being written, and that nothing
else is touched. -/

namespace RemotePlayback.Session

/-- The text of a frame. -/
def Outbound.text? : Outbound → Option String
  | .text s => some s
  | .close .. => none

namespace Connection

variable {c c' : Connection} {who : Sender} {f : Outbound} {ok : Bool}

/-- **The frames that are still to be written**, the one being written not counted. -/
def unwritten (c : Connection) : List Outbound := c.queue ++ c.waiting.map (·.2)

/-- Frames wait behind the queue only while it is full. -/
def Packed (c : Connection) : Prop := c.waiting ≠ [] → capacity ≤ c.queue.length

/-- Nothing waits behind an empty queue. -/
theorem Packed.waiting_of_empty (packed : c.Packed) (empty : c.queue = []) : c.waiting = [] := by
  apply Decidable.byContradiction
  intro waits
  have full := packed waits
  rw [empty] at full
  exact absurd full (by decide)

theorem Packed.unwritten_of_empty (packed : c.Packed) (empty : c.queue = []) :
    c.unwritten = [] := by
  rw [unwritten, empty, packed.waiting_of_empty empty]
  rfl

/-! ## Handing over -/

/-- A frame is handed over unless the writer is gone. -/
theorem submit?_eq_none_iff : c.submit? who f = none ↔ c.writerGone = true := by
  unfold submit?
  by_cases gone : c.writerGone = true
  · simp [gone]
  · simp only [gone, Bool.false_eq_true, ↓reduceIte, iff_false]
    split <;> nofun

/-- **Handing over**: the frame comes last, and all else stays. -/
structure Submitted (c : Connection) (f : Outbound) (c' : Connection) : Prop where
  unwritten : c'.unwritten = c.unwritten ++ [f]
  writing : c'.writing = c.writing
  gone : c'.writerGone = false
  was : c.writerGone = false
  number : c'.number = c.number
  keepalive : c'.keepalive = c.keepalive
  cancelled : c'.cancelled = c.cancelled
  packed : c.Packed → c'.Packed

theorem submit?_submitted (h : c.submit? who f = some c') : Submitted c f c' := by
  unfold submit? at h
  by_cases gone : c.writerGone = true
  · simp [gone] at h
  · have was : c.writerGone = false := by simpa using gone
    rw [if_neg gone] at h
    split at h
    · rename_i room
      cases h
      refine ⟨?_, rfl, was, was, rfl, rfl, rfl, fun _ waits => absurd room.1 waits⟩
      simp [Connection.unwritten, room.1]
    · rename_i full
      cases h
      refine ⟨by simp [Connection.unwritten], rfl, was, was, rfl, rfl, rfl, ?_⟩
      intro packed _
      by_cases waits : c.waiting = []
      · exact Nat.le_of_not_lt fun room => full ⟨waits, room⟩
      · exact packed waits

/-! ## Writing -/

/-- **Taking a frame**: it was the first of those to be written. -/
structure Taken (c : Connection) (f : Outbound) (c' : Connection) : Prop where
  unwritten : c.unwritten = f :: c'.unwritten
  idle : c.writing = none
  writing : c'.writing = some f
  gone : c'.writerGone = false
  was : c.writerGone = false
  number : c'.number = c.number
  keepalive : c'.keepalive = c.keepalive
  cancelled : c'.cancelled = c.cancelled
  packed : c.Packed → c'.Packed

theorem take?_taken (h : c.take? = some (f, c')) : Taken c f c' := by
  unfold take? at h
  split at h
  · cases h
  · rename_i free
    obtain ⟨was, idle⟩ := not_or.mp free
    have was : c.writerGone = false := by simpa using was
    have idle : c.writing = none := by simpa using idle
    split at h
    · cases h
    · rename_i first queue eq
      cases h
      refine ⟨?_, idle, rfl, was, was, rfl, rfl, rfl, ?_⟩
      · -- the room in the queue goes to the first frame behind it
        cases waiting : c.waiting <;> simp [Connection.unwritten, eq, waiting]
      · intro packed waits
        have more : c.waiting ≠ [] := fun none => waits (by simp [none])
        obtain ⟨w, rest, eq'⟩ := List.exists_cons_of_ne_nil more
        have full := packed more
        simpa [eq, eq'] using full

/-- **The end of a write**: the writer goes on after a text that was written, and else is gone. -/
inductive Wrote (c : Connection) : Bool → Connection → Prop where
  | written {t} (writing : c.writing = some (.text t)) : Wrote c true { c with writing := none }
  | failed {t} (writing : c.writing = some (.text t)) :
      Wrote c false { c.endWriter with cancelled := true }
  | closed {reason detail ok} (writing : c.writing = some (.close reason detail)) :
      Wrote c ok c.endWriter

theorem wrote?_wrote (h : c.wrote? ok = some c') : Wrote c ok c' := by
  unfold wrote? at h
  split at h
  · cases h
  · rename_i writing
    cases h
    exact .closed writing
  · rename_i writing
    cases ok with
    | true =>
      cases h
      exact .written writing
    | false =>
      cases h
      exact .failed writing

/-- The writer ends of itself only when there is nothing to write. -/
theorem exhausted?_eq_some (h : c.exhausted? = some c') :
    c' = c.endWriter ∧ c.queue = [] ∧ c.writerGone = false ∧ c.writing = none := by
  unfold exhausted? at h
  split at h
  · cases h
  · rename_i free
    cases h
    simp only [not_or, Decidable.not_not] at free
    obtain ⟨was, idle, empty, -⟩ := free
    exact ⟨rfl, empty, by simpa using was, by simpa using idle⟩

theorem unwritten_endWriter (c : Connection) :
    c.endWriter.unwritten = c.waiting.map (·.2) := rfl

/-- What is left after the writer's end was to be written before. -/
theorem endWriter_sublist (c : Connection) :
    c.endWriter.unwritten.Sublist c.unwritten := by
  rw [unwritten_endWriter]
  exact List.sublist_append_right _ _

/-! ## The keep-alive -/

/-- **The keep-alive's turn**: it waits, hands a ping over, or gives up on a writer that is gone. -/
inductive Beat (c : Connection) : Connection → Prop where
  | rest {keepalive} : Beat c { c with keepalive }
  | ping {c' keepalive} (handed : Submitted c (.text Dealer.pingText) c') :
      Beat c { c' with keepalive }
  | giveUp (gone : c.writerGone = true) : Beat c c.giveUp

theorem keepalive?_beat {clock interval : Nat} (h : c.keepalive? clock interval = some c') :
    c.keepalive ≠ .absent ∧ Beat c c' := by
  unfold keepalive? at h
  split at h
  · cases h
  · cases h
  · rename_i next idle
    refine ⟨by rw [idle]; nofun, ?_⟩
    split at h
    · cases h
    · split at h
      · rename_i refused
        cases h
        exact .giveUp (submit?_eq_none_iff.mp refused)
      · rename_i c₁ handed
        have handed := submit?_submitted handed
        split at h
        · cases h
          exact .ping handed
        · cases h
          exact .ping handed
  · rename_i next sending
    refine ⟨by rw [sending]; nofun, ?_⟩
    split at h
    · split at h
      · rename_i gone
        cases h
        exact .giveUp gone
      · cases h
    · cases h
      exact .rest

/-- The keep-alive ends early only on a connection that is cancelled. -/
theorem endKeepalive?_eq_some {stopped : Bool} (h : c.endKeepalive? stopped = some c') :
    c.keepalive ≠ .absent ∧ c' = { c with keepalive := .gone } ∧
      (stopped = true ∨ c.cancelled = true) := by
  unfold endKeepalive? at h
  split at h
  · rename_i next idle
    obtain ⟨cancelled, h⟩ := Option.ite_none_right_eq_some.mp h
    exact ⟨by rw [idle]; nofun, (Option.some.inj h).symm, cancelled⟩
  · cases h

/-- What the keep-alive leaves when it gives up was to be written before. -/
theorem giveUp_sublist (c : Connection) : c.giveUp.unwritten.Sublist c.unwritten :=
  (List.Sublist.refl _).append (List.filter_sublist.map _)

/-! ## All together -/

/-- **What becomes of a connection in a step**: what it has to write is left alone, a frame is
handed over or taken, a write comes to its end, or the writer or the keep-alive does. -/
inductive Turns (c : Connection) : Connection → Prop where
  | touch {keepalive cancelled} (kept : c.cancelled = true → cancelled = true) :
      Turns c { c with keepalive, cancelled }
  | handed {f : Outbound} {c' : Connection} {keepalive cancelled} (handed : Submitted c f c') :
      Turns c { c' with keepalive, cancelled }
  | taken {f : Outbound} {c' : Connection} (taken : Taken c f c') : Turns c c'
  | exhausted : Turns c c.endWriter
  | wrote {ok : Bool} {c' : Connection} (wrote : Wrote c ok c') : Turns c c'
  | giveUp (gone : c.writerGone = true) : Turns c c.giveUp

theorem Turns.refl (c : Connection) : Turns c c := .touch id

theorem Beat.turns (h : Beat c c') : Turns c c' := by
  cases h with
  | rest => exact .touch id
  | ping handed => exact .handed handed
  | giveUp gone => exact .giveUp gone

/-- A connection keeps its number. -/
theorem Turns.number (h : Turns c c') : c'.number = c.number := by
  cases h with
  | touch | exhausted | giveUp => rfl
  | handed handed => exact handed.number
  | taken taken => exact taken.number
  | wrote wrote => cases wrote <;> rfl

end Connection

end RemotePlayback.Session
