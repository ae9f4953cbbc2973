import Mathlib.Data.List.DropRight
import Mathlib.Data.List.TakeWhile
import RemotePlayback.Text.Blank

/-! What is left of a text when it is cut.

Blanks around a text make no difference to what is left when they are cut off, and cutting again
changes nothing; what is left of a URL without the slashes at its end is one text. Cutting at a
separator gives parts without it, and tells what the text was made of. -/

namespace RemotePlayback.Text

variable {cs before after front : List Char} {sep : Char} {p : Char → Bool}

/-! ## Blanks -/

theorem dropStart_append (blank : ∀ c ∈ before, isBlank c = true) (cs : List Char) :
    dropStart isBlank (before ++ cs) = dropStart isBlank cs :=
  List.dropWhile_append_of_pos blank

theorem dropEnd_append (all : ∀ c ∈ after, p c = true) (cs : List Char) :
    dropEnd p (cs ++ after) = dropEnd p cs := by
  have all' : ∀ c ∈ after.reverse, p c = true := by simpa using all
  rw [dropEnd, dropEnd, List.reverse_append, List.dropWhile_append_of_pos all']

/-- What begins with something else than a blank keeps its beginning. -/
theorem dropStart_cons {c : Char} (solid : isBlank c = false) (cs : List Char) :
    dropStart isBlank (c :: cs) = c :: cs := by
  rw [dropStart, List.dropWhile_cons_of_neg]
  simp [solid]

/-- What stands in front of something else than a blank is kept. -/
theorem dropEnd_behind {c : Char} (solid : isBlank c = false) (front cs : List Char) :
    dropEnd isBlank (front ++ c :: cs) = front ++ c :: dropEnd isBlank cs := by
  have kept : List.dropWhile isBlank (c :: front.reverse) = c :: front.reverse :=
    dropStart_cons solid _
  have turned : (front ++ c :: cs).reverse = cs.reverse ++ c :: front.reverse := by simp
  rw [dropEnd, dropEnd, turned, List.dropWhile_append, kept]
  split
  · rename_i blank
    rw [List.isEmpty_iff.mp blank]
    simp
  · simp

/-- A text is kept to its end if there are no blanks in it. -/
theorem dropEnd_of_solid (solid : ∀ c ∈ cs, isBlank c = false) : dropEnd isBlank cs = cs := by
  refine List.rdropWhile_eq_self_iff.mpr fun some => ?_
  simp [solid _ (List.getLast_mem some)]

theorem dropEnd_front (p : Char → Bool) (cs : List Char) : dropEnd p cs <+: cs :=
  List.rdropWhile_prefix p cs

/-- **Blanks around a text make no difference.** -/
theorem trim_blanks (first : ∀ c ∈ before, isBlank c = true) (last : ∀ c ∈ after, isBlank c = true)
    (cs : List Char) : trim (before ++ cs ++ after) = trim cs := by
  rw [trim, trim, List.append_assoc, dropStart_append first]
  cases rest : dropStart isBlank cs with
  | nil =>
    have blank : ∀ c ∈ cs, isBlank c = true := List.dropWhile_eq_nil_iff.mp rest
    have nothing : dropStart isBlank after = [] := List.dropWhile_eq_nil_iff.mpr last
    rw [dropStart_append blank, nothing]
  | cons c rest' =>
    have some : dropStart isBlank (cs ++ after) = (c :: rest') ++ after := by
      rw [dropStart] at rest ⊢
      rw [List.dropWhile_append, rest]
      rfl
    rw [some, dropEnd_append last]

/-- Between two characters that are no blanks nothing is cut off. -/
theorem trim_between {c d : Char} (first : isBlank c = false) (last : isBlank d = false)
    (front cs : List Char) :
    trim (c :: (front ++ d :: cs)) = c :: (front ++ d :: dropEnd isBlank cs) := by
  rw [trim, dropStart_cons first]
  exact dropEnd_behind last (c :: front) cs

/-- **What was trimmed has no more blanks to cut off.** -/
theorem trim_trim (cs : List Char) : trim (trim cs) = trim cs := by
  have last : dropEnd isBlank (trim cs) = trim cs := List.rdropWhile_idempotent _ _
  cases left : trim cs with
  | nil => rfl
  | cons c rest =>
    have solid : isBlank c = false := by
      obtain ⟨more, whole⟩ := dropEnd_front isBlank (dropStart isBlank cs)
      have start : dropStart isBlank cs = c :: (rest ++ more) := by
        rw [← whole, ← trim, left, List.cons_append]
      have found := List.head?_dropWhile_not isBlank cs
      rw [dropStart] at start
      simpa [start] using found
    rw [left] at last
    rw [trim, dropStart_cons solid, last]

/-! ## Slashes -/

/-- **A URL without the slashes at its end**: nothing but slashes is cut off, and none is left. -/
structure Unslashed (url root : String) : Prop where
  cut : ∃ n, url.toList = root.toList ++ List.replicate n '/'
  bare : root.toList.getLast? ≠ some '/'

/-- There is one such rest of a URL. -/
theorem unslashed_iff {url root : String} : Unslashed url root ↔ root = trimSlashes url := by
  constructor
  · rintro ⟨⟨n, whole⟩, bare⟩
    have slashes : ∀ c ∈ List.replicate n '/', decide (c = '/') = true := fun c mem =>
      decide_eq_true (List.eq_of_mem_replicate mem)
    have kept : dropEnd (· = '/') root.toList = root.toList := by
      refine List.rdropWhile_eq_self_iff.mpr fun some slash => bare ?_
      rw [List.getLast?_eq_some_getLast some, of_decide_eq_true slash]
    rw [trimSlashes, whole, dropEnd_append slashes, kept, String.ofList_toList]
  · rintro rfl
    refine ⟨⟨(url.toList.rtakeWhile (· = '/')).length, ?_⟩, ?_⟩
    · have slashes : ∀ c ∈ url.toList.rtakeWhile (· = '/'), c = '/' := fun c mem => by
        simpa using List.mem_rtakeWhile_imp mem
      rw [← List.eq_replicate_of_mem slashes, trimSlashes, String.toList_ofList]
      exact List.rdropWhile_append_rtakeWhile.symm
    · rw [trimSlashes, String.toList_ofList]
      intro last
      have some : dropEnd (· = '/') url.toList ≠ [] := fun none => by
        rw [none] at last
        cases last
      rw [List.getLast?_eq_some_getLast some] at last
      exact List.rdropWhile_last_not _ _ some (decide_eq_true (Option.some.inj last))

/-! ## Separators -/

theorem cutAt_append {first : List Char} (free : sep ∉ first) (rest : List Char) :
    cutAt sep (first ++ sep :: rest) = (first, some rest) := by
  induction first with
  | nil => rw [List.nil_append, cutAt, if_pos rfl]
  | cons c first ih =>
    have other : ¬c = sep := (List.ne_of_not_mem_cons free).symm
    rw [List.cons_append, cutAt, if_neg other, ih (List.not_mem_of_not_mem_cons free)]

theorem cutAt_of_not_mem (free : sep ∉ cs) : cutAt sep cs = (cs, none) := by
  induction cs with
  | nil => rfl
  | cons c cs ih =>
    have other : ¬c = sep := (List.ne_of_not_mem_cons free).symm
    rw [cutAt, if_neg other, ih (List.not_mem_of_not_mem_cons free)]

/-- **What a text was that was cut in two.** -/
theorem cutAt_eq_some_iff {first rest : List Char} :
    cutAt sep cs = (first, some rest) ↔ sep ∉ first ∧ cs = first ++ sep :: rest := by
  constructor
  · intro cut
    by_cases found : sep ∈ cs
    · obtain ⟨before, after, whole, free⟩ := List.eq_append_cons_of_mem found
      rw [whole, cutAt_append free] at cut
      cases cut
      exact ⟨free, whole⟩
    · rw [cutAt_of_not_mem found] at cut
      cases cut
  · rintro ⟨free, rfl⟩
    exact cutAt_append free rest

/-- The parts of a text are the text alone, or what comes before the first separator and the parts
of what comes behind it. -/
theorem splitAll_cases (sep : Char) (cs : List Char) :
    sep ∉ cs ∧ splitAll sep cs = [cs] ∨
      ∃ first rest, sep ∉ first ∧ cs = first ++ sep :: rest ∧
        splitAll sep cs = first :: splitAll sep rest := by
  by_cases found : sep ∈ cs
  · obtain ⟨first, rest, rfl, free⟩ := List.eq_append_cons_of_mem found
    exact .inr ⟨first, rest, free, rfl, splitAll_append free rest⟩
  · exact .inl ⟨found, splitAll_of_not_mem found⟩

theorem splitAll_ne_nil (sep : Char) (cs : List Char) : splitAll sep cs ≠ [] := by
  rcases splitAll_cases sep cs with ⟨-, one⟩ | ⟨first, rest, -, -, some⟩
  · simp [one]
  · simp [some]

/-- **What a text was that has three parts.** -/
theorem splitAll_eq_three_iff {a b c : List Char} :
    splitAll sep cs = [a, b, c] ↔
      sep ∉ a ∧ sep ∉ b ∧ sep ∉ c ∧ cs = a ++ sep :: (b ++ sep :: c) := by
  constructor
  · intro split
    rcases splitAll_cases sep cs with ⟨-, one⟩ | ⟨first, more, freeA, rfl, one⟩
    · rw [split] at one
      cases one
    obtain ⟨rfl, two⟩ := List.cons.inj (split.symm.trans one)
    rcases splitAll_cases sep more with ⟨-, last⟩ | ⟨second, rest, freeB, rfl, parts⟩
    · rw [last] at two
      cases two
    obtain ⟨rfl, three⟩ := List.cons.inj (two.trans parts)
    rcases splitAll_cases sep rest with ⟨freeC, last⟩ | ⟨third, none, -, -, parts⟩
    · cases three.trans last
      exact ⟨freeA, freeB, freeC, rfl⟩
    · obtain ⟨-, nothing⟩ := List.cons.inj (three.trans parts)
      exact (splitAll_ne_nil sep none nothing.symm).elim
  · rintro ⟨freeA, freeB, freeC, rfl⟩
    rw [splitAll_append freeA, splitAll_append freeB, splitAll_of_not_mem freeC]

end RemotePlayback.Text
