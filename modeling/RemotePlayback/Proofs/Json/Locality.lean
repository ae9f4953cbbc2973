import Mathlib.Data.List.Forall2
import RemotePlayback.Proofs.Json.Parsed
import RemotePlayback.Proofs.Json.RoundTrip

/-! A JSON text means the same wherever it stands.

What a reader takes off the front of a text does not depend on what follows, a number aside, which
goes on for as long as there are digits; so what follows has to end a number. Each reader gets one
lemma that says so. For whole documents the statement is about the containers around them, too:
a text that is read by itself as a document is read as that document inside any open containers. So
texts of values, put together with commas between brackets, are a text of the array. -/

namespace RemotePlayback.Json

variable {s rest more : Bytes}

/-! ## Numbers -/

namespace Numeral

theorem digitRun_append {ds : List Nat} (h : digitRun s = (ds, rest)) (ends : Ends more) :
    digitRun (s ++ more) = (ds, rest ++ more) := by
  induction s generalizing ds rest with
  | nil =>
    cases h
    exact digitRun_of_ends ends
  | cons b s ih =>
    rw [digitRun] at h
    rw [List.cons_append, digitRun]
    split at h
    · cases h
      rw [ih rfl]
    · cases h
      rfl

theorem someDigits?_append {ds : List Nat} (h : someDigits? s = some (ds, rest))
    (ends : Ends more) : someDigits? (s ++ more) = some (ds, rest ++ more) := by
  unfold someDigits? at h ⊢
  split at h
  · cases h
  · rename_i run
    cases h
    rw [digitRun_append run ends]

theorem whole?_append {ds : List Nat} (h : whole? s = some (ds, rest)) (ends : Ends more) :
    whole? (s ++ more) = some (ds, rest ++ more) := by
  unfold whole? at h ⊢
  split at h
  · cases h
  · rename_i plain
    rw [someDigits?_append h ends]
    split
    · rename_i zero
      cases zero
      exact (plain _ _ _ h).elim
    · rfl

theorem fraction?_append {f : Option (List Nat)} (h : fraction? s = some (f, rest))
    (ends : Ends more) : fraction? (s ++ more) = some (f, rest ++ more) := by
  unfold fraction? at h
  split at h
  · obtain ⟨⟨ds, r⟩, digits, eq⟩ := Option.map_eq_some_iff.mp h
    cases eq
    rw [List.cons_append, fraction?, someDigits?_append digits ends]
    rfl
  · rename_i other
    cases h
    cases s with
    | nil => exact fraction?_of_ends ends
    | cons b s =>
      rw [List.cons_append, fraction?.eq_def]
      split
      · rename_i eq
        exact (other s ((List.cons.inj eq).1 ▸ rfl)).elim
      · rfl

/-- The sign of an exponent, if it has one, is a single byte before its digits. -/
theorem exponent?_letter {b : UInt8} (letter : b = 0x65 ∨ b = 0x45) (c : UInt8) (r : Bytes) :
    exponent? (b :: c :: r) =
      if c = 0x2D then (someDigits? r).map fun d => (some (true, d.1), d.2)
      else if c = 0x2B then (someDigits? r).map fun d => (some (false, d.1), d.2)
      else (someDigits? (c :: r)).map fun d => (some (false, d.1), d.2) := by
  rw [exponent?.eq_def]
  dsimp only
  rw [if_pos letter]
  by_cases minus : c = 0x2D
  · subst minus
    rfl
  · by_cases plus : c = 0x2B
    · subst plus
      rfl
    · rw [if_neg minus, if_neg plus]
      split <;> simp_all

theorem exponent?_append {e : Option (Bool × List Nat)} (h : exponent? s = some (e, rest))
    (ends : Ends more) : exponent? (s ++ more) = some (e, rest ++ more) := by
  have digits {s : Bytes} {sign : Bool}
      (h : (someDigits? s).map (fun r => (some (sign, r.1), r.2)) = some (e, rest)) :
      (someDigits? (s ++ more)).map (fun r => (some (sign, r.1), r.2)) =
        some (e, rest ++ more) := by
    obtain ⟨⟨ds, r⟩, digits, eq⟩ := Option.map_eq_some_iff.mp h
    cases eq
    rw [someDigits?_append digits ends]
    rfl
  cases s with
  | nil =>
    cases h
    exact exponent?_of_ends ends
  | cons b s =>
    by_cases letter : b = 0x65 ∨ b = 0x45
    · cases s with
      | nil => simp [exponent?, letter, someDigits?, digitRun] at h
      | cons c s =>
        rw [exponent?_letter letter] at h
        rw [List.cons_append, List.cons_append, exponent?_letter letter]
        by_cases minus : c = 0x2D
        · rw [if_pos minus] at h ⊢
          exact digits h
        · rw [if_neg minus] at h ⊢
          by_cases plus : c = 0x2B
          · rw [if_pos plus] at h ⊢
            exact digits h
          · rw [if_neg plus] at h ⊢
            exact digits h
    · have none (r : Bytes) : exponent? (b :: r) = some (none, b :: r) := by
        rw [exponent?.eq_def]
        exact if_neg letter
      rw [none] at h
      cases h
      exact none (s ++ more)

theorem unsigned?_append {negative : Bool} {n : Numeral} (h : unsigned? negative s = some (n, rest))
    (ends : Ends more) : unsigned? negative (s ++ more) = some (n, rest ++ more) := by
  simp only [unsigned?, Option.bind_eq_bind, Option.bind_eq_some_iff, Prod.exists] at h
  obtain ⟨w, s₁, whole, f, s₂, fraction, e, s₃, exponent, eq⟩ := h
  cases eq
  simp only [unsigned?, Option.bind_eq_bind, whole?_append whole ends, Option.bind_some,
    fraction?_append fraction ends, exponent?_append exponent ends, pure]

/-- A number begins with a digit or a minus sign. -/
theorem isFirst_of_read? {n : Numeral} (h : read? s = some (n, rest)) :
    ∃ b r, s = b :: r ∧ IsFirst b := by
  cases s with
  | nil => cases h
  | cons b r =>
    refine ⟨b, r, rfl, ?_⟩
    by_cases minus : b = 0x2D
    · exact .inl minus
    · right
      rw [read?_unsigned minus] at h
      simp only [unsigned?, Option.bind_eq_bind, Option.bind_eq_some_iff, Prod.exists] at h
      obtain ⟨w, s₁, whole, -⟩ := h
      by_cases digit : 0x30 ≤ b ∧ b ≤ 0x39
      · exact digit
      · simp [whole?, someDigits?, digitRun, digit?, digit] at whole

/-- **A number ends where it ended before.** -/
theorem read?_append {n : Numeral} (h : read? s = some (n, rest)) (ends : Ends more) :
    read? (s ++ more) = some (n, rest ++ more) := by
  obtain ⟨b, r, rfl, -⟩ := isFirst_of_read? h
  by_cases minus : b = 0x2D
  · subst minus
    exact unsigned?_append (s := r) h ends
  · rw [read?_unsigned minus] at h
    rw [List.cons_append, read?_unsigned minus, ← List.cons_append]
    exact unsigned?_append h ends

end Numeral

namespace Document

variable {stack outer : List Frame} {body key : Bytes} {d : Document}

/-! ## Tokens -/

theorem skip_append {b : UInt8} {r : Bytes} (h : skip s = b :: r) (more : Bytes) :
    skip (s ++ more) = b :: (r ++ more) := by
  rw [skip] at h ⊢
  rw [List.dropWhile_append, h]
  rfl

/-- Nothing but white space. -/
theorem skip_append_of_blank (h : skip s = []) (more : Bytes) : skip (s ++ more) = skip more := by
  rw [skip] at h ⊢
  rw [List.dropWhile_append, h]
  rfl

/-- What is solid behind white space is where reading goes on. -/
theorem skip_blanks {blanks : Bytes} {b : UInt8} (blank : skip blanks = [])
    (solid : isSpace b = false) (r : Bytes) : skip (blanks ++ b :: r) = b :: r := by
  rw [skip_append_of_blank blank, skip_cons solid]

theorem body?_append (h : body? s = some (body, rest)) (more : Bytes) :
    body? (s ++ more) = some (body, rest ++ more) := by
  fun_induction body? s generalizing body rest with
  | case1 => cases h
  | case2 =>
    cases h
    rfl
  | case3 a b c d s hex ih =>
    obtain ⟨⟨x, y⟩, inner, eq⟩ := Option.map_eq_some_iff.mp h
    cases eq
    exact (body?_hex hex (s ++ more)).trans (by rw [ih inner]; rfl)
  | case4 => cases h
  | case5 e s plain letter ih =>
    obtain ⟨⟨x, y⟩, inner, eq⟩ := Option.map_eq_some_iff.mp h
    cases eq
    obtain ⟨v, letter⟩ := Option.isSome_iff_exists.mp letter
    have other : e ≠ 0x75 := by
      rintro rfl
      cases letter
    exact (body?_letter letter other (s ++ more)).trans (by rw [ih inner]; rfl)
  | case6 => cases h
  | case7 => cases h
  | case8 b s quote _ _ bare ih =>
    obtain ⟨⟨x, y⟩, inner, eq⟩ := Option.map_eq_some_iff.mp h
    cases eq
    obtain ⟨printable, backslash⟩ := not_or.mp bare
    exact (body?_bare ⟨printable, quote, backslash⟩ (s ++ more)).trans (by rw [ih inner]; rfl)

theorem word?_append {word : Bytes} (h : word? word s = some rest) (more : Bytes) :
    word? word (s ++ more) = some (rest ++ more) := by
  induction word generalizing s with
  | nil =>
    cases h
    rfl
  | cons w word ih =>
    cases s with
    | nil => cases h
    | cons b s =>
      rw [word?] at h
      rw [List.cons_append, word?]
      split at h
      · rename_i same
        rw [if_pos same]
        exact ih h
      · cases h

/-- What there is where a key is. -/
theorem exists_of_key?_eq_some (h : key? s = some (key, rest)) :
    ∃ r r', skip s = 0x22 :: r ∧ body? r = some (key, r') ∧ skip r' = 0x3A :: rest := by
  unfold key? at h
  split at h
  · rename_i r quote
    split at h
    · rename_i k r' found
      split at h
      · rename_i colon
        cases h
        exact ⟨r, r', quote, found, colon⟩
      · cases h
    · cases h
  · cases h

theorem key?_append (h : key? s = some (key, rest)) (more : Bytes) :
    key? (s ++ more) = some (key, rest ++ more) := by
  obtain ⟨r, r', quote, found, colon⟩ := exists_of_key?_eq_some h
  exact key?_eq_some (skip_append quote more) (body?_append found more) (skip_append colon more)

/-! ## Documents -/

theorem length_lt_of_skip {b : UInt8} {r : Bytes} (h : skip s = b :: r) : r.length < s.length := by
  have whole := length_skip s
  rw [h, List.length_cons] at whole
  omega

-- The recursion is that of the reader: every part that is read leaves less of the text, which is
-- what each `less` says.
mutual

/-- **A document is read wherever it stands.** -/
theorem value_append (s : Bytes) (stack : List Frame) (d : Document) (rest : Bytes)
    (h : value stack s = some (d, rest)) (outer : List Frame) (ends : Ends more) :
    value (stack ++ outer) (s ++ more) = resume d outer (rest ++ more) := by
  rw [value.eq_def] at h
  split at h
  case h_1 r start =>
    split at h
    · rename_i body r' found
      have less := Nat.lt_trans (length_body? found) (length_lt_of_skip start)
      rw [value_string (skip_append start more) (body?_append found more)]
      exact resume_append r' stack _ d rest h outer ends
    · cases h
  case h_2 r start =>
    have less := length_lt_of_skip start
    split at h
    · rename_i r' close
      have less' := Nat.lt_trans (length_lt_of_skip close) less
      rw [value_emptyArray (skip_append start more) (skip_append close more)]
      exact resume_append r' stack _ d rest h outer ends
    · rename_i notClosed
      obtain ⟨b, r', first⟩ := exists_of_value_eq_some h
      have other (x : Bytes) : skip (r ++ more) ≠ 0x5D :: x := by
        rw [skip_append first more]
        rintro eq
        exact notClosed r' (by rw [first, (List.cons.inj eq).1])
      rw [value_array (skip_append start more) other]
      exact value_append r (.array [] :: stack) d rest h outer ends
  case h_3 r start =>
    split at h
    · rename_i r' close
      have less := Nat.lt_trans (length_lt_of_skip close) (length_lt_of_skip start)
      rw [value_emptyObject (skip_append start more) (skip_append close more)]
      exact resume_append r' stack _ d rest h outer ends
    · split at h
      · rename_i key r' named
        have less := Nat.lt_trans (length_key? named) (length_lt_of_skip start)
        obtain ⟨x, -, quote, -, -⟩ := exists_of_key?_eq_some named
        have other (y : Bytes) : skip (r ++ more) ≠ 0x7D :: y := by
          rw [skip_append quote more]
          rintro eq
          exact absurd (List.cons.inj eq).1 (by decide)
        rw [value_object (skip_append start more) other (key?_append named more)]
        exact value_append r' (.object [] key :: stack) d rest h outer ends
      · cases h
  case h_4 r start =>
    split at h
    · rename_i r' word
      have less := Nat.lt_of_le_of_lt (length_word? word) (length_lt_of_skip start)
      rw [value_null (skip_append start more) (word?_append word more)]
      exact resume_append r' stack _ d rest h outer ends
    · cases h
  case h_5 r start =>
    split at h
    · rename_i r' word
      have less := Nat.lt_of_le_of_lt (length_word? word) (length_lt_of_skip start)
      rw [value_true (skip_append start more) (word?_append word more)]
      exact resume_append r' stack _ d rest h outer ends
    · cases h
  case h_6 r start =>
    split at h
    · rename_i r' word
      have less := Nat.lt_of_le_of_lt (length_word? word) (length_lt_of_skip start)
      rw [value_false (skip_append start more) (word?_append word more)]
      exact resume_append r' stack _ d rest h outer ends
    · cases h
  case h_7 =>
    split at h
    · rename_i n r read
      have less := Nat.lt_of_lt_of_le (Numeral.length_read? read) (length_skip s)
      obtain ⟨b, x, start, first⟩ := Numeral.isFirst_of_read? read
      have read' := Numeral.read?_append read ends
      rw [start, List.cons_append] at read'
      rw [value_number first (skip_append start more) read']
      exact resume_append r stack _ d rest h outer ends
    · cases h
termination_by s.length

theorem resume_append (s : Bytes) (stack : List Frame) (x d : Document) (rest : Bytes)
    (h : resume x stack s = some (d, rest)) (outer : List Frame) (ends : Ends more) :
    resume x (stack ++ outer) (s ++ more) = resume d outer (rest ++ more) := by
  rw [resume.eq_def] at h
  split at h
  · cases h
    rfl
  · split at h
    · rename_i r start
      have less := length_lt_of_skip start
      rw [List.cons_append, resume_item (skip_append start more)]
      exact value_append r (.array _ :: _) d rest h outer ends
    · rename_i r start
      have less := length_lt_of_skip start
      rw [List.cons_append, resume_endArray (skip_append start more), ← List.reverse_cons]
      exact resume_append r _ _ d rest h outer ends
    · cases h
  · split at h
    · rename_i r start
      split at h
      · rename_i key r' named
        have less := Nat.lt_trans (length_key? named) (length_lt_of_skip start)
        rw [List.cons_append, resume_member (skip_append start more) (key?_append named more)]
        exact value_append r' (.object _ key :: _) d rest h outer ends
      · cases h
    · rename_i r start
      have less := length_lt_of_skip start
      rw [List.cons_append, resume_endObject (skip_append start more), ← List.reverse_cons]
      exact resume_append r _ _ d rest h outer ends
    · cases h
termination_by s.length

end

/-- **A whole text is one value among others**: inside any open containers it is read as the
document that it is by itself, up to the blanks at its end. -/
theorem value_of_read? (h : read? s = some d) (outer : List Frame) (ends : Ends more) :
    ∃ blanks, skip blanks = [] ∧ value outer (s ++ more) = resume d outer (blanks ++ more) := by
  rw [read?, readPart?] at h
  cases front : value [] s with
  | none =>
    rw [front] at h
    cases h
  | some found =>
    obtain ⟨d', blanks⟩ := found
    rw [front] at h
    dsimp only at h
    split at h
    · rename_i blank
      cases h
      exact ⟨blanks, blank, value_append s [] d blanks front outer ends⟩
    · cases h

/-! ## Elements of an array -/

/-- What is read as a value does not begin like the end of an array. -/
theorem not_end_of_value (h : value stack s = some (d, rest)) (more r : Bytes) :
    skip (s ++ more) ≠ 0x5D :: r := by
  obtain ⟨b, r', start⟩ := exists_of_value_eq_some h
  rw [skip_append start]
  intro eq
  obtain rfl : b = 0x5D := (List.cons.inj eq).1
  rw [value.eq_def] at h
  split at h
  case h_7 =>
    split at h
    · rename_i n r'' read
      obtain ⟨b, x, first, isFirst⟩ := Numeral.isFirst_of_read? read
      rw [start] at first
      cases first
      exact absurd isFirst (by decide)
    · cases h
  all_goals simp_all

/-- The texts of further elements, each after a comma, up to the end of the array. -/
def moreTexts : List Bytes → Bytes
  | [] => [0x5D]
  | t :: ts => 0x2C :: (t ++ moreTexts ts)

/-- The texts of the elements of an array, put together to its text. -/
def arrayText : List Bytes → Bytes
  | [] => [0x5B, 0x5D]
  | t :: ts => 0x5B :: (t ++ moreTexts ts)

theorem ends_moreTexts (ts : List Bytes) : Ends (moreTexts ts) := by
  cases ts with
  | nil => exact ends_cons (by decide) _
  | cons t ts => exact ends_cons (by decide) _

/-- The elements before a text are kept while it is read, so the rest of an array may begin
anywhere. -/
theorem resume_moreTexts {ts : List Bytes} {ds : List Document}
    (read : List.Forall₂ (fun t d => read? t = some d) ts ds) {items : List Document}
    {blanks : Bytes} (blank : skip blanks = []) :
    resume d [.array items] (blanks ++ moreTexts ts) =
      some (.array (items.reverse ++ d :: ds), []) := by
  induction read generalizing d items blanks with
  | nil => rw [moreTexts, resume_endArray (skip_blanks blank rfl []), resume]
  | @cons t d' ts ds first _ ih =>
    obtain ⟨blanks', blank', inside⟩ :=
      value_of_read? first [.array (d :: items)] (ends_moreTexts ts)
    rw [moreTexts, resume_item (skip_blanks blank rfl _), inside, ih blank', List.reverse_cons,
      List.append_assoc, List.singleton_append]

/-- **Texts put together are a text of the array.** -/
theorem read?_arrayText {ts : List Bytes} {ds : List Document}
    (read : List.Forall₂ (fun t d => read? t = some d) ts ds) :
    read? (arrayText ts) = some (.array ds) := by
  have whole : readPart? (arrayText ts) = some (.array ds, []) := by
    cases read with
    | nil =>
      rw [readPart?, arrayText, value_emptyArray (skip_cons rfl _) (skip_cons rfl _), resume]
    | @cons t d ts ds first rest =>
      obtain ⟨blanks, blank, inside⟩ := value_of_read? first [.array []] (ends_moreTexts ts)
      have notEmpty : ∀ r, skip (t ++ moreTexts ts) ≠ 0x5D :: r := by
        intro r
        rw [read?] at first
        split at first
        · rename_i front
          exact not_end_of_value front (moreTexts ts) r
        · cases first
      rw [readPart?, arrayText, value_array (skip_cons rfl _) notEmpty, inside,
        resume_moreTexts rest blank]
      rfl
  rw [read?, whole]
  rfl

end Document

/-! ## Texts -/

/-- The compact text of a value is one of its texts. -/
theorem isText_bytes {depth : Nat} {v : Json} (readable : Readable depth v) :
    IsText depth v.bytes v := by
  rw [IsText, Document.read?_bytes readable, Option.bind_some, Document.value?_ofValue v readable]

/-- Texts of the elements make a text of the array. -/
theorem isText_arrayText {depth : Nat} {ts : List Bytes} {xs : List Json}
    (texts : List.Forall₂ (IsText depth) ts xs) :
    IsText (depth + 1) (Document.arrayText ts) (.array xs) := by
  have documents : ∃ ds, List.Forall₂ (fun t d => Document.read? t = some d) ts ds ∧
      Document.itemValues? depth ds = some xs := by
    induction texts with
    | nil => exact ⟨[], .nil, rfl⟩
    | cons first _ ih =>
      obtain ⟨d, read, value⟩ := Option.bind_eq_some_iff.mp first
      obtain ⟨ds, more, values⟩ := ih
      exact ⟨d :: ds, .cons read more, by simp [Document.itemValues?, value, values]⟩
  obtain ⟨ds, read, values⟩ := documents
  rw [IsText, Document.read?_arrayText read, Option.bind_some, Document.value?, values,
    Option.map_some]

end RemotePlayback.Json
