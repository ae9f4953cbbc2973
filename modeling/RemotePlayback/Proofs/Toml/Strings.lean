import RemotePlayback.Toml.Text
import RemotePlayback.Toml.Writer

/-! TOML strings are read back as they were written.

The writer has four ways to write a string and looks at its characters to choose one. In two of them
nothing is escaped, so it takes them only where every character may stand for itself; in the other
two it escapes what may not. The tripled marks may have one or two of their own kind before them,
and the reader counts on finding no more: for quotes the writer sees to that, for apostrophes it is
a condition on the string (`not_three_of_longestRun`). -/

namespace RemotePlayback.Toml

open Text (isVisible)

variable {c l : Char} {s rest w : List Char}

/-! ## Characters -/

theorem isVisible_of_not_isControl (plain : isControl c = false) (line : c ≠ '\n') :
    isVisible c = true := by
  by_cases tab : c = '\t'
  · rw [tab]
    decide
  · simp [isControl, tab, line] at plain
    simp [isVisible, plain]

/-- Below the letters there are only the controls and the tab and line break among them. -/
theorem isVisible_of_printable (low : ¬c.toNat < 0x20) (delete : ¬c.toNat = 0x7F) :
    isVisible c = true := by
  simp [isVisible, Nat.le_of_not_lt low, delete]

/-- **The escapes of a character**: by a letter, or by its number in four hexadecimal digits. -/
inductive Escapes (c : Char) : List Char → Prop where
  | letter (l : Char) (value : letterValue? l = some c) : Escapes c ['\\', l]
  | number (x y z w : Char) (value : hexChar? [x, y, z, w] = some c) :
    Escapes c ['\\', 'u', x, y, z, w]

theorem hexNumber?_upper : ∀ n < 0x80, hexNumber?
    ['0', '0', (Nat.digitChar (n / 16)).toUpper, (Nat.digitChar (n % 16)).toUpper] = some n := by
  decide

theorem escapes_controlEscape (low : c.toNat < 0x80) : Escapes c (controlEscape c) := by
  unfold controlEscape
  split
  · rename_i eq
    exact .letter 'b' (by rw [eq]; rfl)
  split
  · rename_i eq
    exact .letter 't' (by rw [eq]; rfl)
  split
  · rename_i eq
    exact .letter 'n' (by rw [eq]; rfl)
  split
  · rename_i eq
    exact .letter 'f' (by rw [eq]; rfl)
  split
  · rename_i eq
    exact .letter 'r' (by rw [eq]; rfl)
  · have valid : c.toNat.isValidChar := c.valid
    refine .number _ _ _ _ ?_
    rw [hexChar?, hexNumber?_upper _ low, Option.bind_some, if_pos valid, Char.ofNat_toNat]

theorem escapes_mark (mark : c = '"' ∨ c = '\\') : Escapes c ['\\', c] := by
  refine .letter c ?_
  rcases mark with rfl | rfl <;> rfl

/-- **What is written for a character between quotes**, on one line or on several, unless it is a
quote by itself. -/
inductive Spells : (several : Bool) → Char → List Char → Prop where
  | escaped {several : Bool} {c : Char} {w : List Char} (escapes : Escapes c w) : Spells several c w
  | visible {several : Bool} {c : Char} (visible : isVisible c = true) (quote : c ≠ '"')
    (backslash : c ≠ '\\') : Spells several c [c]
  | newline : Spells true '\n' ['\n']

theorem Spells.start {several : Bool} (spells : Spells several c w) :
    ∃ d r, w = d :: r ∧ d ≠ '"' := by
  cases spells with
  | escaped escapes => cases escapes <;> exact ⟨'\\', _, rfl, by decide⟩
  | visible _ quote _ => exact ⟨c, [], rfl, quote⟩
  | newline => exact ⟨'\n', [], rfl, by decide⟩

/-- A character that is neither a mark nor a line break shows itself, or it is a control. -/
theorem spells_of_not_mark (several : Bool) (quote : c ≠ '"') (backslash : c ≠ '\\') :
    Spells several c (if c.toNat < 0x20 ∨ c.toNat = 0x7F then controlEscape c else [c]) := by
  by_cases control : c.toNat < 0x20 ∨ c.toNat = 0x7F
  · rw [if_pos control]
    exact .escaped (escapes_controlEscape (by omega))
  · rw [if_neg control]
    obtain ⟨low, delete⟩ := not_or.mp control
    exact .visible (isVisible_of_printable low delete) quote backslash

/-! ## Runs -/

section

variable {d : Char}

theorem le_longestRun_go (s : List Char) :
    ∀ run longest, longest ≤ longestRun.go d s run longest := by
  induction s with
  | nil => exact fun run longest => Nat.le_refl longest
  | cons c s ih =>
    intro run longest
    rw [longestRun.go]
    split
    · exact Nat.le_trans (Nat.le_max_left _ _) (ih _ _)
    · exact ih _ _

/-- A run goes on where it was. -/
theorem add_le_longestRun_go (n : Nat) (s : List Char) : ∀ run longest, run ≤ longest →
    run + n ≤ longestRun.go d (List.replicate n d ++ s) run longest := by
  induction n with
  | zero =>
    intro run longest le
    exact Nat.le_trans le (le_longestRun_go s run longest)
  | succ n ih =>
    intro run longest le
    rw [List.replicate_succ, List.cons_append, longestRun.go, if_pos rfl]
    have more := ih (run + 1) (max longest (run + 1)) (Nat.le_max_right _ _)
    omega

/-- **The longest run is at least as long as any.** -/
theorem le_longestRun {n : Nat} (run : List.replicate n d <:+: s) : n ≤ longestRun d s := by
  have found (s : List Char) : List.replicate n d <:+: s → ∀ run longest, run ≤ longest →
      n ≤ longestRun.go d s run longest := by
    induction s with
    | nil =>
      intro run _ _ _
      have none : n = 0 := by simpa using run.length_le
      rw [none]
      exact Nat.zero_le _
    | cons c s ih =>
      intro there run longest le
      rcases List.infix_cons_iff.mp there with ⟨r, eq⟩ | later
      · have more := add_le_longestRun_go (d := d) n r run longest le
        rw [eq] at more
        omega
      · rw [longestRun.go]
        split
        · exact ih later _ _ (Nat.le_max_right _ _)
        · exact ih later _ _ (Nat.zero_le _)
  exact found s run 0 0 (Nat.le_refl 0)

theorem not_mem_of_longestRun (none : longestRun d s = 0) : d ∉ s := by
  intro mem
  obtain ⟨a, b, rfl⟩ := List.append_of_mem mem
  have one : 1 ≤ longestRun d (a ++ d :: b) := le_longestRun ⟨a, b, by simp⟩
  omega

theorem not_three_of_longestRun (few : longestRun d s ≤ 2) : ¬[d, d, d] <:+: s := by
  intro run
  have three : 3 ≤ longestRun d s := le_longestRun run
  omega

end

/-! ## Strings between quotes -/

theorem basic?_letter (value : letterValue? l = some c) (rest : List Char) :
    basic? ('\\' :: l :: rest) = after c (basic? rest) := by
  have other : l ≠ 'u' ∧ l ≠ 'U' := by
    constructor <;>
      · rintro rfl
        cases value
  rw [basic?.eq_def]
  split <;> simp_all
  rename_i single eq
  exact (single l rest eq.1.symm eq.2.symm).elim

theorem basic?_escape (escapes : Escapes c w) (rest : List Char) :
    basic? (w ++ rest) = after c (basic? rest) := by
  cases escapes with
  | letter l value => exact basic?_letter value rest
  | number x y z w value =>
    show basic? ('\\' :: 'u' :: x :: y :: z :: w :: rest) = _
    rw [basic?, value]
    rfl

theorem basic?_visible (visible : isVisible c = true) (quote : c ≠ '"') (backslash : c ≠ '\\')
    (rest : List Char) : basic? (c :: rest) = after c (basic? rest) := by
  rw [basic?.eq_def]
  split <;> simp_all

theorem basic?_spelled (spells : Spells false c w) (rest : List Char) :
    basic? (w ++ rest) = after c (basic? rest) := by
  cases spells with
  | escaped escapes => exact basic?_escape escapes rest
  | visible visible quote backslash => exact basic?_visible visible quote backslash rest

theorem basicChars_cons (c : Char) (s : List Char) :
    ∃ w, Spells false c w ∧ basicChars (c :: s) = w ++ basicChars s := by
  rw [basicChars, List.flatMap_cons]
  refine ⟨_, ?_, rfl⟩
  by_cases mark : c = '"' ∨ c = '\\'
  · rw [if_pos mark]
    exact .escaped (escapes_mark mark)
  · rw [if_neg mark]
    obtain ⟨quote, backslash⟩ := not_or.mp mark
    exact spells_of_not_mark false quote backslash

/-- **What is written between quotes is read back.** -/
theorem basic?_basicChars (s rest : List Char) :
    basic? (basicChars s ++ '"' :: rest) = some (s, rest) := by
  induction s with
  | nil => rfl
  | cons c s ih =>
    obtain ⟨w, spells, eq⟩ := basicChars_cons c s
    rw [eq, List.append_assoc, basic?_spelled spells, ih]
    rfl

/-! ## Strings between apostrophes -/

theorem literal?_cons (visible : isVisible c = true) (apostrophe : c ≠ '\'') (rest : List Char) :
    literal? (c :: rest) = after c (literal? rest) := by
  rw [literal?.eq_def]
  split <;> simp_all

theorem literal?_append (visible : ∀ c ∈ s, isVisible c = true) (plain : '\'' ∉ s)
    (rest : List Char) : literal? (s ++ '\'' :: rest) = some (s, rest) := by
  induction s with
  | nil => rfl
  | cons c s ih =>
    have other : c ≠ '\'' := (List.ne_of_not_mem_cons plain).symm
    rw [List.cons_append, literal?_cons (visible c List.mem_cons_self) other,
      ih (fun d mem => visible d (List.mem_cons_of_mem c mem)) (List.not_mem_of_not_mem_cons plain)]
    rfl

/-! ## Strings between tripled quotes -/

/-- After `quotes` quotes in a row, the next character is a quote by itself, or it is spelled. -/
theorem basicLinesChars_cons (quotes : Nat) (c : Char) (s : List Char) :
    c = '"' ∧ quotes ≠ 2 ∧
        basicLinesChars quotes (c :: s) = '"' :: basicLinesChars (quotes + 1) s ∨
      ∃ w, Spells true c w ∧ basicLinesChars quotes (c :: s) = w ++ basicLinesChars 0 s := by
  rw [basicLinesChars]
  by_cases quote : c = '"'
  · rw [if_pos quote]
    by_cases two : quotes = 2
    · rw [if_pos two]
      exact .inr ⟨_, .escaped (escapes_mark (.inl quote)), by rw [quote]; rfl⟩
    · rw [if_neg two]
      exact .inl ⟨quote, two, rfl⟩
  · rw [if_neg quote]
    right
    by_cases backslash : c = '\\'
    · rw [if_pos backslash]
      exact ⟨_, .escaped (escapes_mark (.inr backslash)), by rw [backslash]; rfl⟩
    · rw [if_neg backslash]
      by_cases newline : c = '\n'
      · rw [if_pos newline]
        exact ⟨['\n'], by rw [newline]; exact .newline, rfl⟩
      · rw [if_neg newline]
        refine ⟨_, spells_of_not_mark true quote backslash, ?_⟩
        split <;> rfl

theorem endsLine_letter (value : letterValue? l = some c) (rest : List Char) :
    endsLine (l :: rest) = false := by
  have letter : l = 'b' ∨ l = 't' ∨ l = 'n' ∨ l = 'f' ∨ l = 'r' ∨ l = '"' ∨ l = '\\' := by
    unfold letterValue? at value
    grind
  rcases letter with rfl | rfl | rfl | rfl | rfl | rfl | rfl <;> rfl

theorem basicLines?_letter (value : letterValue? l = some c) (rest : List Char) :
    basicLines? false ('\\' :: l :: rest) = after c (basicLines? false rest) := by
  have other : l ≠ 'u' ∧ l ≠ 'U' := by
    constructor <;>
      · rintro rfl
        cases value
  have goesOn := endsLine_letter value rest
  rw [basicLines?.eq_def]
  split <;> simp_all
  rename_i single eq
  exact (single l rest eq.1.symm eq.2.symm).elim

theorem basicLines?_spelled (spells : Spells true c w) (rest : List Char) :
    basicLines? false (w ++ rest) = after c (basicLines? false rest) := by
  cases spells with
  | escaped escapes =>
    cases escapes with
    | letter l value => exact basicLines?_letter value rest
    | number x y z w value =>
      show basicLines? false ('\\' :: 'u' :: x :: y :: z :: w :: rest) = _
      rw [basicLines?, value]
      rfl
  | visible visible quote backslash =>
    rw [List.singleton_append, basicLines?.eq_def]
    split <;> simp_all
    exact absurd visible (by decide)
  | newline => rfl

theorem basicLines?_quote (single : ∀ r, rest ≠ '"' :: '"' :: r) :
    basicLines? false ('"' :: rest) = after '"' (basicLines? false rest) := by
  rw [basicLines?.eq_def]
  split <;> simp_all
  rename_i eq
  obtain ⟨rfl, rfl⟩ := eq
  rfl

section

variable (quote : ∀ r, rest ≠ '"' :: r)

include quote

/-- One or two quotes of the string may stand before the mark, which has to end the quotes. -/
theorem basicLines?_mark :
    basicLines? false ('"' :: '"' :: '"' :: rest) = some ([], rest) ∧
    basicLines? false ('"' :: '"' :: '"' :: '"' :: rest) = some (['"'], rest) ∧
    basicLines? false ('"' :: '"' :: '"' :: '"' :: '"' :: rest) = some (['"', '"'], rest) := by
  refine ⟨?_, ?_, ?_⟩ <;> simp [basicLines?, quote]

/-- **What is written between tripled quotes is read back**, whatever number of quotes came before.
-/
theorem basicLines?_basicLinesChars (s : List Char) : ∀ quotes ≤ 2,
    basicLines? false (basicLinesChars quotes s ++ '"' :: '"' :: '"' :: rest) = some (s, rest) := by
  obtain ⟨mark, mark₁, mark₂⟩ := basicLines?_mark quote
  induction s with
  | nil =>
    intro quotes _
    exact mark
  | cons c s ih =>
    intro quotes le
    rcases basicLinesChars_cons quotes c s with ⟨rfl, notTwo, eq⟩ | ⟨w, spells, eq⟩
    · rw [eq, List.cons_append]
      -- unless the string ends within two quotes, they are not followed by a third one
      have goesOn (single : ∀ r, basicLinesChars (quotes + 1) s ++ '"' :: '"' :: '"' :: rest ≠
          '"' :: '"' :: r) : basicLines? false ('"' :: (basicLinesChars (quotes + 1) s ++
            '"' :: '"' :: '"' :: rest)) = some ('"' :: s, rest) := by
        rw [basicLines?_quote single, ih (quotes + 1) (by omega)]
        rfl
      cases s with
      | nil => exact mark₁
      | cons d s =>
        rcases basicLinesChars_cons (quotes + 1) d s with ⟨rfl, notTwo', eq'⟩ | ⟨w, spells, eq'⟩
        · have first : quotes = 0 := by omega
          subst first
          cases s with
          | nil => exact mark₂
          | cons e s =>
            rcases basicLinesChars_cons 2 e s with ⟨-, two, -⟩ | ⟨w, spells, eq''⟩
            · exact absurd rfl two
            · refine goesOn fun r same => ?_
              obtain ⟨f, w', rfl, other⟩ := spells.start
              rw [eq', eq''] at same
              exact other (List.cons.inj (List.cons.inj same).2).1
        · refine goesOn fun r same => ?_
          obtain ⟨f, w', rfl, other⟩ := spells.start
          rw [eq'] at same
          exact other (List.cons.inj same).1
    · rw [eq, List.append_assoc, basicLines?_spelled spells, ih 0 (by omega)]
      rfl

end

/-! ## Strings between tripled apostrophes -/

theorem literalLines?_cons (visible : isVisible c = true ∨ c = '\n') (apostrophe : c ≠ '\'')
    (rest : List Char) : literalLines? (c :: rest) = after c (literalLines? rest) := by
  rcases visible with visible | rfl
  · rw [literalLines?.eq_def]
    split <;> simp_all
    exact absurd visible (by decide)
  · rfl

theorem literalLines?_apostrophe (single : ∀ r, rest ≠ '\'' :: '\'' :: r) :
    literalLines? ('\'' :: rest) = after '\'' (literalLines? rest) := by
  rw [literalLines?.eq_def]
  split <;> simp_all
  rename_i eq
  obtain ⟨rfl, rfl⟩ := eq
  rfl

section

variable (apostrophe : ∀ r, rest ≠ '\'' :: r)

include apostrophe

theorem literalLines?_mark :
    literalLines? ('\'' :: '\'' :: '\'' :: rest) = some ([], rest) ∧
    literalLines? ('\'' :: '\'' :: '\'' :: '\'' :: rest) = some (['\''], rest) ∧
    literalLines? ('\'' :: '\'' :: '\'' :: '\'' :: '\'' :: rest) = some (['\'', '\''], rest) := by
  refine ⟨?_, ?_, ?_⟩ <;> simp [literalLines?, apostrophe]

/-- **What is written between tripled apostrophes is read back**, if there are no three of them. -/
theorem literalLines?_append (visible : ∀ c ∈ s, isVisible c = true ∨ c = '\n')
    (few : ¬['\'', '\'', '\''] <:+: s) :
    literalLines? (s ++ '\'' :: '\'' :: '\'' :: rest) = some (s, rest) := by
  obtain ⟨mark, mark₁, mark₂⟩ := literalLines?_mark apostrophe
  induction s with
  | nil => exact mark
  | cons c s ih =>
    have ih := ih (fun d mem => visible d (List.mem_cons_of_mem c mem))
      fun run => few (List.infix_cons run)
    by_cases own : c = '\''
    · subst own
      have goesOn (single : ∀ r, s ++ '\'' :: '\'' :: '\'' :: rest ≠ '\'' :: '\'' :: r) :
          literalLines? ('\'' :: (s ++ '\'' :: '\'' :: '\'' :: rest)) =
            some ('\'' :: s, rest) := by
        rw [literalLines?_apostrophe single, ih]
        rfl
      cases s with
      | nil => exact mark₁
      | cons d s =>
        by_cases second : d = '\''
        · subst second
          cases s with
          | nil => exact mark₂
          | cons e s =>
            refine goesOn fun r same => few ?_
            have third : e = '\'' := (List.cons.inj (List.cons.inj same).2).1
            rw [third]
            exact ⟨[], s, rfl⟩
        · exact goesOn fun r same => second (List.cons.inj same).1
    · rw [List.cons_append, literalLines?_cons (visible c List.mem_cons_self) own, ih]
      rfl

end

/-! ## All of them -/

theorem string?_quote (single : ∀ r, rest ≠ '"' :: '"' :: r) :
    string? ('"' :: rest) = basic? rest := by
  rw [string?.eq_def]
  split <;> simp_all

theorem string?_apostrophe (single : ∀ r, rest ≠ '\'' :: '\'' :: r) :
    string? ('\'' :: rest) = literal? rest := by
  rw [string?.eq_def]
  split <;> simp_all

theorem newline?_of_isVisible (visible : isVisible c = true) (rest : List Char) :
    newline? (c :: rest) = none := by
  rw [newline?.eq_def]
  split
  · rename_i eq
    cases eq
    exact absurd visible (by decide)
  · rename_i eq
    cases eq
    exact absurd visible (by decide)
  · rfl

/-- A string of several lines has a line break behind its opening mark, and any other has none. -/
theorem skipNewline_onLines {several : Bool} {body : List Char}
    (plain : several = false → newline? body = none) :
    skipNewline ((if several then ['\n'] else []) ++ body) = body := by
  cases several with
  | true => rfl
  | false =>
    show skipNewline body = body
    rw [skipNewline, plain rfl]
    rfl

theorem newline?_basicLinesChars (line : '\n' ∉ s) (rest : List Char) :
    newline? (basicLinesChars 0 s ++ '"' :: rest) = none := by
  cases s with
  | nil => rfl
  | cons c s =>
    rcases basicLinesChars_cons 0 c s with ⟨-, -, eq⟩ | ⟨w, spells, eq⟩
    · rw [eq]
      rfl
    · rw [eq]
      cases spells with
      | escaped escapes => cases escapes <;> rfl
      | visible visible => exact newline?_of_isVisible visible _
      | newline => exact absurd rfl (List.ne_of_not_mem_cons line)

variable (quote : ∀ r, rest ≠ '"' :: r) (apostrophe : ∀ r, rest ≠ '\'' :: r)

include quote in
theorem string?_line (s : List Char) :
    string? ((['"'] ++ basicChars s ++ ['"']) ++ rest) = some (s, rest) := by
  have single : ∀ r, basicChars s ++ '"' :: rest ≠ '"' :: '"' :: r := by
    intro r same
    cases s with
    | nil => exact quote r (List.cons.inj same).2
    | cons c s =>
      obtain ⟨w, spells, eq⟩ := basicChars_cons c s
      obtain ⟨d, w', rfl, other⟩ := spells.start
      rw [eq] at same
      exact other (List.cons.inj same).1
  rw [List.append_assoc, List.append_assoc, List.singleton_append, List.singleton_append,
    string?_quote single, basic?_basicChars]

include apostrophe in
theorem string?_literal (visible : ∀ c ∈ s, isVisible c = true) (plain : '\'' ∉ s) :
    string? ((['\''] ++ s ++ ['\'']) ++ rest) = some (s, rest) := by
  have single : ∀ r, s ++ '\'' :: rest ≠ '\'' :: '\'' :: r := by
    intro r same
    cases s with
    | nil => exact apostrophe r (List.cons.inj same).2
    | cons c s => exact List.ne_of_not_mem_cons plain (List.cons.inj same).1.symm
  rw [List.append_assoc, List.append_assoc, List.singleton_append, List.singleton_append,
    string?_apostrophe single, literal?_append visible plain]

include quote in
theorem string?_lines (s : List Char) :
    string? (onLines ['"', '"', '"'] (basicLinesChars 0 s) (s.contains '\n') ++ rest) =
      some (s, rest) := by
  have plain : s.contains '\n' = false →
      newline? (basicLinesChars 0 s ++ '"' :: '"' :: '"' :: rest) = none := by
    intro line
    exact newline?_basicLinesChars (by simpa using line) _
  rw [onLines, List.append_assoc, List.append_assoc, List.append_assoc]
  show basicLines? false (skipNewline ((if s.contains '\n' then ['\n'] else []) ++
    (basicLinesChars 0 s ++ '"' :: '"' :: '"' :: rest))) = _
  rw [skipNewline_onLines plain, basicLines?_basicLinesChars quote s 0 (by decide)]

include apostrophe in
theorem string?_literalLines (visible : ∀ c ∈ s, isVisible c = true ∨ c = '\n')
    (few : ¬['\'', '\'', '\''] <:+: s) :
    string? (onLines ['\'', '\'', '\''] s (s.contains '\n') ++ rest) = some (s, rest) := by
  have plain : s.contains '\n' = false →
      newline? (s ++ '\'' :: '\'' :: '\'' :: rest) = none := by
    intro line
    cases s with
    | nil => rfl
    | cons c s =>
      have other : '\n' ∉ c :: s := by simpa using line
      refine newline?_of_isVisible ?_ _
      exact (visible c List.mem_cons_self).resolve_right (List.ne_of_not_mem_cons other).symm
  rw [onLines, List.append_assoc, List.append_assoc, List.append_assoc]
  show literalLines? (skipNewline ((if s.contains '\n' then ['\n'] else []) ++
    (s ++ '\'' :: '\'' :: '\'' :: rest))) = _
  rw [skipNewline_onLines plain, literalLines?_append apostrophe visible few]

omit quote apostrophe in
theorem visible_of_any_eq_false (plain : s.any isControl = false) (mem : c ∈ s) :
    isVisible c = true ∨ c = '\n' := by
  by_cases line : c = '\n'
  · exact .inr line
  · have noControl : isControl c = false := by simpa using List.any_eq_false.mp plain c mem
    exact .inl (isVisible_of_not_isControl noControl line)

include quote apostrophe in
/-- **Every string is read back**, whichever way it is written. -/
theorem string?_stringChars (s : List Char) : string? (stringChars s ++ rest) = some (s, rest) := by
  rw [stringChars]
  split
  · exact string?_line quote s
  split
  · rename_i line
    simp only [Bool.and_eq_true, Bool.not_eq_true', decide_eq_true_eq] at line
    obtain ⟨⟨plain, single⟩, none⟩ := line
    have visible (c : Char) (mem : c ∈ s) : isVisible c = true := by
      refine (visible_of_any_eq_false plain mem).resolve_right ?_
      rintro rfl
      exact absurd mem (by simpa using single)
    exact string?_literal apostrophe visible (not_mem_of_longestRun none)
  split
  · exact string?_lines quote s
  split
  · rename_i few
    simp only [Bool.and_eq_true, Bool.not_eq_true', decide_eq_true_eq] at few
    obtain ⟨plain, few⟩ := few
    exact string?_literalLines apostrophe (fun c mem => visible_of_any_eq_false plain mem)
      (not_three_of_longestRun few)
  split
  · exact string?_lines quote s
  · exact string?_line quote s

end RemotePlayback.Toml
