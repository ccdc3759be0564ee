import CoachScript.Proofs.Grammar.Parser

/-!
# Parsers as they are put together

A `Pattern` is a parser together with how it was put together: a tree with one constructor for each
combinator.

* `Pattern.parser`: the parser that the tree stands for.
* `Walk`: a parser that goes over one input by the numbers of its tokens. Its two loops, in `Walk.many` and
  `Walk.separatedMore`, go round until something stops them, and **nothing but a failure stops a list with
  separators**. A walk is told how many turns a loop may take; it comes to nothing where these are too few.
* `Pattern.walk`: the walk that the tree stands for.
-/

namespace CoachScript

variable {τ α β : Type}

/-- A parser as it is put together. -/
inductive Pattern (τ : Type) : Type → Type 1 where
  | satisfy {α : Type} (shown : τ → String) (f : τ → Option α) (wanted : String) : Pattern τ α
  | equal [DecidableEq τ] (shown : τ → String) (t : τ) : Pattern τ τ
  | expected {α : Type} [DecidableEq α] (shown : α → String) (p : Pattern τ α) (a : α) : Pattern τ α
  | finished (shown : τ → String) : Pattern τ Unit
  | choice {α : Type} {n : Nat} (ps : Fin n → Pattern τ α) : Pattern τ α
  | map {α β : Type} (f : α → β) (p : Pattern τ α) : Pattern τ β
  | asUnit {α : Type} (p : Pattern τ α) : Pattern τ Unit
  | many {α : Type} (p : Pattern τ α) : Pattern τ (List α)
  | separatedList {α : Type} (item : Pattern τ α) (separator : Pattern τ Unit) : Pattern τ (List α)
  | optional {α : Type} (p : Pattern τ α) : Pattern τ (Option α)
  | delimited {α : Type} (left : Pattern τ Unit) (p : Pattern τ α) (right : Pattern τ Unit) :
    Pattern τ α
  | both {α β : Type} (p : Pattern τ α) (q : Pattern τ β) : Pattern τ (α × β)
  | five {α₁ α₂ α₃ α₄ α₅ : Type} (p₁ : Pattern τ α₁) (p₂ : Pattern τ α₂) (p₃ : Pattern τ α₃)
    (p₄ : Pattern τ α₄) (p₅ : Pattern τ α₅) : Pattern τ (α₁ × α₂ × α₃ × α₄ × α₅)
  | within {α : Type} (part : String) (p : Pattern τ α) : Pattern τ α
  | deferred {α : Type} (p : Unit → Pattern τ α) : Pattern τ α

namespace Pattern

/-- The parser that a pattern stands for. -/
def parser : {α : Type} → Pattern τ α → Parser τ α
  | _, satisfy shown f wanted => .satisfy shown f wanted
  | _, equal shown t => .equal shown t
  | _, expected shown p a => .expected shown p.parser a
  | _, finished shown => .finished shown
  | _, choice ps => .choice (List.ofFn fun k => (ps k).parser)
  | _, map f p => .map f p.parser
  | _, asUnit p => .asUnit p.parser
  | _, many p => .many p.parser
  | _, separatedList item separator => .separatedList item.parser separator.parser
  | _, optional p => .optional p.parser
  | _, delimited left p right => .delimited left.parser p.parser right.parser
  | _, both p q => .both p.parser q.parser
  | _, five p₁ p₂ p₃ p₄ p₅ => .five p₁.parser p₂.parser p₃.parser p₄.parser p₅.parser
  | _, within part p => .within part p.parser
  | _, deferred p => .deferred fun _ => (p ()).parser

/-- The patterns that a choice is between. -/
def alternatives : {α : Type} → Pattern τ α → List (Pattern τ α)
  | _, choice ps => List.ofFn ps
  | _, _ => []

/-- The pattern is a repetition or an option. -/
def IsLenient : {α : Type} → Pattern τ α → Prop
  | _, many _ | _, separatedList .. | _, optional _ => True
  | _, _ => False

end Pattern

/-! ### Walks -/

/-- What came of a walk: a value and the number of the token behind it, or an error; nothing if a loop was not
at its end when its turns were used up. -/
abbrev Attempt (α : Type) := Option (Except ParseError (α × Nat))

/-- Goes on behind a success. -/
def Attempt.andThen (x : Attempt α) (f : α → Nat → Attempt β) : Attempt β :=
  match x with
  | none => none
  | some (.error e) => some (.error e)
  | some (.ok (a, stop)) => f a stop

/-- A parser over one input: from the number of a token to what came of it. -/
def Walk (α : Type) := Nat → Attempt α

namespace Walk

variable (input : List τ)

/-- Reads one token for which `f` gives a value. -/
def satisfy (shown : τ → String) (f : τ → Option α) (wanted : String) : Walk α := fun start =>
  match input[start]? with
  | none => some (.error (.unexpectedEnd start))
  | some t =>
    match f t with
    | some a => some (.ok (a, start + 1))
    | none => some (.error (.unexpected wanted (shown t) start))

/-- Reads one token, which has to be `t`. -/
def equal [DecidableEq τ] (shown : τ → String) (t : τ) : Walk τ := fun start =>
  match input[start]? with
  | none => some (.error (.unexpectedEnd start))
  | some u =>
    if u = t then some (.ok (u, start + 1))
    else some (.error (.unexpected (shown t) (shown u) start))

/-- Succeeds where no token is left. -/
def finished (shown : τ → String) : Walk Unit := fun start =>
  match input[start]? with
  | none => some (.ok ((), start))
  | some t => some (.error (.unexpected "end of line" (shown t) start))

/-- Refuses every value of `w` but `a`. -/
def expected [DecidableEq α] (shown : α → String) (w : Walk α) (a : α) : Walk α := fun start =>
  (w start).andThen fun b stop =>
    if b = a then some (.ok (b, stop)) else some (.error (.unexpected (shown a) (shown b) start))

/-- The first walk that succeeds, after others have failed with the furthest error `best`. -/
def choiceAfter (best : Option ParseError) : List (Walk α) → Walk α
  | [], start => some (.error (best.getD (.noAlternative start)))
  | w :: more, start =>
    match w start with
    | none => none
    | some (.ok result) => some (.ok result)
    | some (.error e) => choiceAfter (some (ParseError.further best e)) more start

/-- Applies `f` to the value of `w`. -/
def map (f : α → β) (w : Walk α) : Walk β := fun start =>
  (w start).andThen fun a stop => some (.ok (f a, stop))

/-- The values of `w`, up to a failure or a match that reads nothing. -/
def many (w : Walk α) : Nat → Walk (List α)
  | 0, _ => none
  | turns + 1, start =>
    match w start with
    | none => none
    | some (.error _) => some (.ok ([], start))
    | some (.ok (a, stop)) =>
      if stop = start then some (.ok ([], start))
      else (many w turns stop).andThen fun as final => some (.ok (a :: as, final))

/-- Pairs of a separator and a value, up to a failure. A pair that reads nothing does not stop them. -/
def separatedMore (item : Walk α) (separator : Walk Unit) : Nat → Walk (List α)
  | 0, _ => none
  | turns + 1, start =>
    match separator start with
    | none => none
    | some (.error _) => some (.ok ([], start))
    | some (.ok (_, middle)) =>
      match item middle with
      | none => none
      | some (.error _) => some (.ok ([], start))
      | some (.ok (a, stop)) =>
        (separatedMore item separator turns stop).andThen fun as final => some (.ok (a :: as, final))

/-- Any number of values of `item` with a separator between two. -/
def separatedList (item : Walk α) (separator : Walk Unit) (turns : Nat) : Walk (List α) := fun start =>
  match item start with
  | none => none
  | some (.error _) => some (.ok ([], start))
  | some (.ok (a, stop)) =>
    (separatedMore item separator turns stop).andThen fun as final => some (.ok (a :: as, final))

/-- A value of `w`, or nothing where it fails. -/
def optional (w : Walk α) : Walk (Option α) := fun start =>
  match w start with
  | none => none
  | some (.error _) => some (.ok (none, start))
  | some (.ok (a, stop)) => some (.ok (some a, stop))

/-- The value of `w` between two marks. -/
def delimited (left : Walk Unit) (w : Walk α) (right : Walk Unit) : Walk α := fun start =>
  (left start).andThen fun _ i => (w i).andThen fun a j => (right j).andThen fun _ stop =>
    some (.ok (a, stop))

/-- Two values in turn. -/
def both (v : Walk α) (w : Walk β) : Walk (α × β) := fun start =>
  (v start).andThen fun a i => (w i).andThen fun b stop => some (.ok ((a, b), stop))

/-- Five values in turn. -/
def five {α₁ α₂ α₃ α₄ α₅ : Type} (w₁ : Walk α₁) (w₂ : Walk α₂) (w₃ : Walk α₃) (w₄ : Walk α₄)
    (w₅ : Walk α₅) : Walk (α₁ × α₂ × α₃ × α₄ × α₅) := fun start =>
  (w₁ start).andThen fun a₁ i => (w₂ i).andThen fun a₂ i => (w₃ i).andThen fun a₃ i =>
    (w₄ i).andThen fun a₄ i => (w₅ i).andThen fun a₅ stop => some (.ok ((a₁, a₂, a₃, a₄, a₅), stop))

/-- Names the part of the grammar in which `w` failed. -/
def within (part : String) (w : Walk α) : Walk α := fun start =>
  match w start with
  | some (.error e) => some (.error (.within part e))
  | x => x

/-- **A separator and an item that read nothing keep a list going**, whatever the number of turns. -/
theorem separatedMore_endless {item : Walk α} {separator : Walk Unit} {start : Nat} {a : α}
    (hseparator : separator start = some (.ok ((), start))) (hitem : item start = some (.ok (a, start)))
    (turns : Nat) : separatedMore item separator turns start = none := by
  induction turns with
  | zero => rfl
  | succ turns ih =>
    rw [separatedMore, hseparator]
    dsimp only
    rw [hitem]
    dsimp only
    rw [ih]
    rfl

end Walk

/-- The walk over an input that a pattern stands for; no loop takes more than `turns` turns. -/
def Pattern.walk (input : List τ) (turns : Nat) : {α : Type} → Pattern τ α → Walk α
  | _, satisfy shown f wanted => .satisfy input shown f wanted
  | _, equal shown t => .equal input shown t
  | _, expected shown p a => .expected shown (p.walk input turns) a
  | _, finished shown => .finished input shown
  | _, choice ps => .choiceAfter none (List.ofFn fun k => (ps k).walk input turns)
  | _, map f p => .map f (p.walk input turns)
  | _, asUnit p => .map (fun _ => ()) (p.walk input turns)
  | _, many p => .many (p.walk input turns) turns
  | _, separatedList item separator =>
    .separatedList (item.walk input turns) (separator.walk input turns) turns
  | _, optional p => .optional (p.walk input turns)
  | _, delimited left p right =>
    .delimited (left.walk input turns) (p.walk input turns) (right.walk input turns)
  | _, both p q => .both (p.walk input turns) (q.walk input turns)
  | _, five p₁ p₂ p₃ p₄ p₅ =>
    .five (p₁.walk input turns) (p₂.walk input turns) (p₃.walk input turns) (p₄.walk input turns)
      (p₅.walk input turns)
  | _, within part p => .within part (p.walk input turns)
  | _, deferred p => (p ()).walk input turns

/-- Where neither is there, a list of items that may be missing, with separators that may be missing, does not
come to its end. -/
theorem Pattern.walk_separatedList_endless {item : Pattern τ α} {separator : Pattern τ β} {input : List τ}
    {turns start : Nat} {e e' : ParseError} (hitem : item.walk input turns start = some (.error e))
    (hseparator : separator.walk input turns start = some (.error e')) :
    (separatedList (optional item) (asUnit (optional separator))).walk input turns start = none := by
  have hnoItem : (optional item).walk input turns start = some (.ok (none, start)) := by
    rw [walk, Walk.optional, hitem]
  have hnoSeparator : (asUnit (optional separator)).walk input turns start = some (.ok ((), start)) := by
    rw [walk, Walk.map, walk, Walk.optional, hseparator]
    rfl
  rw [walk, Walk.separatedList, hnoItem]
  dsimp only
  rw [Walk.separatedMore_endless hnoSeparator hnoItem]
  rfl

end CoachScript
