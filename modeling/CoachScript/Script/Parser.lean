/-!
# Parsers over a sequence of tokens

* `Cursor`: the tokens not read yet and how many were read before them.
* `ParseError`: why a parser refused; `ParseError.position` is the token it stopped at.
* `Parser`: from a cursor to a value and the cursor behind it, or an error.

The combinators: `equal`, `satisfy`, `expected` and `finished` read single tokens; `choice`,
`many`, `separatedList`, `optional`, `delimited`, `both`, `five`, `within` put parsers together;
`recursive` closes a grammar over itself. **A choice reports the error that got furthest**, the
first of those that got equally far. A repetition stops at a match that reads nothing, and
`recursive` refuses to enter itself before a token has been read, so every parser ends.
-/

namespace CoachScript

/-- A place in a sequence of tokens. -/
structure Cursor (τ : Type) where
  position : Nat
  rest : List τ
deriving DecidableEq, Repr

/-- The cursor before the token of number `position`. -/
def Cursor.at (tokens : List τ) (position : Nat) : Cursor τ := ⟨position, tokens.drop position⟩

/-- Why a parser refused its input. -/
inductive ParseError where
  | unexpectedEnd (position : Nat)
  | unexpected (wanted found : String) (position : Nat)
  | noAlternative (position : Nat)
  | within (part : String) (inner : ParseError)
deriving DecidableEq, Repr

namespace ParseError

/-- The number of the token at which the parser stopped. -/
def position : ParseError → Nat
  | .unexpectedEnd position => position
  | .unexpected _ _ position => position
  | .noAlternative position => position
  | .within _ inner => inner.position

/-- The wording of an error. -/
def message : ParseError → String
  | .unexpectedEnd position => String.join ["unexpected end of line at token ", toString position]
  | .unexpected wanted found position =>
    String.join ["expected ", wanted, ", found ", found, " at token ", toString position]
  | .noAlternative position => String.join ["no alternative matched at token ", toString position]
  | .within part inner => String.join [part, ": ", inner.message]

/-- Of two errors the one that got further, the first if they got equally far. -/
def further : Option ParseError → ParseError → ParseError
  | none, e => e
  | some best, e => if best.position < e.position then e else best

end ParseError

/-- A parser for values of type `α`. -/
def Parser (τ α : Type) := Cursor τ → Except ParseError (α × Cursor τ)

namespace Parser

variable {τ α β : Type}

/-- Reads one token for which `f` gives a value. -/
def satisfy (shown : τ → String) (f : τ → Option α) (wanted : String) : Parser τ α
  | ⟨position, []⟩ => .error (.unexpectedEnd position)
  | ⟨position, t :: rest⟩ =>
    match f t with
    | some a => .ok (a, ⟨position + 1, rest⟩)
    | none => .error (.unexpected wanted (shown t) position)

/-- Reads one token, which has to be `t`. -/
def equal [DecidableEq τ] (shown : τ → String) (t : τ) : Parser τ τ :=
  satisfy shown (fun u => if u = t then some u else none) (shown t)

/-- Refuses every value of `p` but `a`. -/
def expected [DecidableEq α] (shown : α → String) (p : Parser τ α) (a : α) : Parser τ α :=
  fun c => do
    let (b, after) ← p c
    if b = a then pure (b, after) else throw (.unexpected (shown a) (shown b) c.position)

/-- Succeeds where no token is left. -/
def finished (shown : τ → String) : Parser τ Unit
  | ⟨position, []⟩ => .ok ((), ⟨position, []⟩)
  | ⟨position, t :: _⟩ => .error (.unexpected "end of line" (shown t) position)

/-- The first parser that succeeds, after others have failed with the furthest error `best`. -/
def choiceAfter (best : Option ParseError) : List (Parser τ α) → Parser τ α
  | [], c => .error (best.getD (.noAlternative c.position))
  | p :: more, c =>
    match p c with
    | .ok result => .ok result
    | .error e => choiceAfter (some (ParseError.further best e)) more c

/-- The first parser that succeeds; if none does, the error that got furthest. -/
def choice (ps : List (Parser τ α)) : Parser τ α := choiceAfter none ps

/-- Applies `f` to the value of `p`. -/
def map (f : α → β) (p : Parser τ α) : Parser τ β := fun c => do
  let (a, after) ← p c
  pure (f a, after)

/-- Forgets the value of `p`. -/
def asUnit (p : Parser τ α) : Parser τ Unit := map (fun _ => ()) p

/-- The values of `p`, again and again, up to a failure or a match that reads nothing. -/
def repeated (p : Parser τ α) (c : Cursor τ) : List α × Cursor τ :=
  match p c with
  | .error _ => ([], c)
  | .ok (a, after) =>
    if after.rest.length < c.rest.length then
      let (more, final) := repeated p after
      (a :: more, final)
    else ([], c)
termination_by c.rest.length

/-- Any number of values of `p`. -/
def many (p : Parser τ α) : Parser τ (List α) := fun c => .ok (repeated p c)

/-- Pairs of a separator and a value, up to a failure or a pair that reads nothing. A separator
without a value behind it is not read. -/
def separatedMore (item : Parser τ α) (separator : Parser τ Unit) (c : Cursor τ) :
    List α × Cursor τ :=
  match separator c with
  | .error _ => ([], c)
  | .ok (_, middle) =>
    match item middle with
    | .error _ => ([], c)
    | .ok (a, after) =>
      if after.rest.length < c.rest.length then
        let (more, final) := separatedMore item separator after
        (a :: more, final)
      else ([], c)
termination_by c.rest.length

/-- Any number of values of `item` with a separator between two. -/
def separatedList (item : Parser τ α) (separator : Parser τ Unit) : Parser τ (List α) := fun c =>
  match item c with
  | .error _ => .ok ([], c)
  | .ok (a, after) =>
    let (more, final) := separatedMore item separator after
    .ok (a :: more, final)

/-- A value of `p`, or nothing where it fails. -/
def optional (p : Parser τ α) : Parser τ (Option α) := fun c =>
  match p c with
  | .ok (a, after) => .ok (some a, after)
  | .error _ => .ok (none, c)

/-- The value of `p` between two marks. -/
def delimited (left : Parser τ Unit) (p : Parser τ α) (right : Parser τ Unit) : Parser τ α :=
  fun c => do
    let (_, c) ← left c
    let (a, c) ← p c
    let (_, c) ← right c
    pure (a, c)

/-- Two values in turn. -/
def both (p : Parser τ α) (q : Parser τ β) : Parser τ (α × β) := fun c => do
  let (a, c) ← p c
  let (b, c) ← q c
  pure ((a, b), c)

/-- Five values in turn. -/
def five {α₁ α₂ α₃ α₄ α₅ : Type} (p₁ : Parser τ α₁) (p₂ : Parser τ α₂) (p₃ : Parser τ α₃)
    (p₄ : Parser τ α₄) (p₅ : Parser τ α₅) : Parser τ (α₁ × α₂ × α₃ × α₄ × α₅) := fun c => do
  let (a₁, c) ← p₁ c
  let (a₂, c) ← p₂ c
  let (a₃, c) ← p₃ c
  let (a₄, c) ← p₄ c
  let (a₅, c) ← p₅ c
  pure ((a₁, a₂, a₃, a₄, a₅), c)

/-- Names the part of the grammar in which `p` failed. -/
def within (part : String) (p : Parser τ α) : Parser τ α := fun c =>
  (p c).mapError (.within part)

/-- Defers a parser until it is needed. -/
def deferred (p : Unit → Parser τ α) : Parser τ α := fun c => p () c

/-- The parser that `body` describes in terms of itself, entered again only behind a token. -/
def recursive (body : Parser τ α → Parser τ α) (c : Cursor τ) : Except ParseError (α × Cursor τ) :=
  body (fun inner =>
    if inner.rest.length < c.rest.length then recursive body inner
    else .error (.noAlternative inner.position)) c
termination_by c.rest.length

end Parser

end CoachScript
