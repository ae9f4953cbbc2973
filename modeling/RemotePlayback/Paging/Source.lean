import RemotePlayback.Paging.Page
import RemotePlayback.Text.Decimal
import RemotePlayback.Text.Quoted

/-!
Where pages come from.

A source is asked for one page after the other. It is given the token of the page before, none for
the first one, and answers with a page, with none if there is no more at the moment, or with a
failure. What it answers may depend on all that it was asked before, so a source is a machine with a
state of its own.
-/

namespace RemotePlayback.Paging

/-- Why a page could not be fetched. -/
inductive FetchFailure where
  | unknownToken (token : String)
  | failed (reason : String)
  deriving DecidableEq, Inhabited

/-- The wording of a failure. -/
def FetchFailure.message : FetchFailure → String
  | unknownToken token => "unknown page token " ++ Text.quoted token
  | failed reason => reason

/-- What a source answers. -/
abbrev Answer := Except FetchFailure (Option Page)

/-- A source of pages with states of a type. -/
structure Source (σ : Type) where
  fetch : Option String → σ → Answer × σ

namespace Source

variable {σ : Type}

/-! ## Pages by their place -/

/-- Numbers the pages of a list: each but the last carries the place of the next one as its token.
-/
def numbered : (place : Nat) → List Page → List Page
  | _, [] => []
  | _, [p] => [{ p with nextToken := none }]
  | place, p :: ps => { p with nextToken := some (toString (place + 1)) } :: numbered (place + 1) ps

/-- The answer for a token that gives the place of a page. -/
def answerAt (pages : List Page) : Option String → Answer
  | none => .ok pages[0]?
  | some token =>
    match Text.word64? token.toList with
    | some place => .ok pages[place]?
    | none => .error (.unknownToken token)

/-- A fixed list of pages, each asked for by its place. Tokens that the pages had are replaced. -/
def ofPages (pages : List Page) : Source Unit where
  fetch token _ := (answerAt (numbered 0 pages) token, ())

/-! ## Other sources -/

/-- Pages looked up by the token they are asked for with. -/
def ofEntries (entries : List (Option String × Page)) : Source Unit where
  fetch token _ := (.ok ((entries.find? (·.1 == token)).map (·.2)), ())

/-- One answer after the other, whatever the token; then no more pages. -/
def ofAnswers : Source (List Answer) where
  fetch _ rest :=
    match rest with
    | [] => (.ok none, [])
    | a :: rest => (a, rest)

/-- A source that remembers each token it was asked for, the last one first. -/
def recorded (s : Source σ) : Source (σ × List (Option String)) where
  fetch token st :=
    let r := s.fetch token st.1
    (r.1, (r.2, token :: st.2))

end Source

end RemotePlayback.Paging
