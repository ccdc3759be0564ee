import CoachScript.Proofs.Grammar.Line
import CoachScript.Proofs.Grammar.Progress

/-!
# The grammar, unfolded

The arguments of a call are expressions, so the grammar of expressions contains itself. For an input of `n`
tokens it is as good as a pattern, in which the grammar was put into itself `n` times: every call reads its name
and a bracket before it reads an argument.

* `Parser.AgreeBelow`: two parsers do the same wherever fewer than `n` tokens are left. One lemma for each
  combinator of the grammar.
* `Grammar.expression_eq`: the grammar of expressions is what it says of itself, with no check that a token was
  read.
* `Grammar.expressionPattern`, `Grammar.linePattern`: the grammar unfolded, with any pattern at the bottom.
* **`Grammar.line_walk`**: reading a line comes to its end, and within the line.
-/

namespace CoachScript

/-! ### Parsers that agree -/

namespace Parser

variable {τ α β : Type} {p p' : Parser τ α} {q q' : Parser τ β} {n k : Nat}

/-- The parsers do the same wherever fewer than `n` tokens are left. -/
def AgreeBelow (n : Nat) (p p' : Parser τ α) : Prop := ∀ c, c.rest.length < n → p c = p' c

/-- The parser reads at least `k` tokens. -/
def Shortens (k : Nat) (p : Parser τ α) : Prop :=
  ∀ c a after, p c = .ok (a, after) → after.rest.length + k ≤ c.rest.length

theorem Yields.shortens {R : List τ → α → Prop} (h : Yields p R) (hk : ∀ ts a, R ts a → k ≤ ts.length) :
    Shortens k p := by
  intro c a after hok
  obtain ⟨ts, hts, hR⟩ := h c a after hok
  have hle := hk ts a hR
  rw [hts, List.length_append]
  omega

theorem Yields.keeps {R : List τ → α → Prop} (h : Yields p R) : Shortens 0 p :=
  h.shortens fun _ _ _ => Nat.zero_le _

namespace AgreeBelow

theorem refl (p : Parser τ α) : AgreeBelow n p p := fun _ _ => rfl

theorem trans {p'' : Parser τ α} (h : AgreeBelow n p p') (h' : AgreeBelow n p' p'') : AgreeBelow n p p'' :=
  fun c hc => (h c hc).trans (h' c hc)

theorem map (f : α → β) (hp : AgreeBelow n p p') : AgreeBelow n (map f p) (map f p') := by
  intro c hc
  rw [Parser.map, Parser.map, hp c hc]

theorem within (part : String) (hp : AgreeBelow n p p') : AgreeBelow n (within part p) (within part p') := by
  intro c hc
  rw [Parser.within, Parser.within, hp c hc]

theorem optional (hp : AgreeBelow n p p') : AgreeBelow n (optional p) (optional p') := by
  intro c hc
  rw [Parser.optional, Parser.optional, hp c hc]

/-- What follows both is the same. -/
theorem before (hp : AgreeBelow n p p') (q : Parser τ β) : AgreeBelow n (both p q) (both p' q) := by
  intro c hc
  rw [Parser.both, Parser.both, hp c hc]

/-- Behind a parser that reads `k` tokens it is enough to agree where so many tokens fewer are left. -/
theorem behind (hp : Shortens k p) (hq : AgreeBelow n q q') :
    AgreeBelow (n + k) (both p q) (both p q') := by
  intro c hc
  rw [Parser.both, Parser.both]
  cases hok : p c with
  | error e => rfl
  | ok result =>
    have hleft := hp c result.1 result.2 hok
    have hq := hq result.2 (by omega)
    show (q result.2 >>= _) = (q' result.2 >>= _)
    rw [hq]

theorem separatedMore {separator : Parser τ Unit} (hp : AgreeBelow n p p')
    (hseparator : Shortens 0 separator) {c : Cursor τ} (hc : c.rest.length < n) :
    separatedMore p separator c = separatedMore p' separator c := by
  induction hlength : c.rest.length using Nat.strong_induction_on generalizing c with
  | _ length ih =>
    rw [Parser.separatedMore.eq_def p, Parser.separatedMore.eq_def p']
    cases hmark : separator c with
    | error e => rfl
    | ok first =>
      have hleft := hseparator c first.1 first.2 hmark
      dsimp only
      rw [hp first.2 (by omega)]
      cases p' first.2 with
      | error e => rfl
      | ok second =>
        dsimp only
        split_ifs with hshorter
        · rw [ih second.2.rest.length (by omega) (by omega) rfl]
        · rfl

theorem separatedList {separator : Parser τ Unit} (hp : AgreeBelow n p p') (hkeeps : Shortens 0 p')
    (hseparator : Shortens 0 separator) :
    AgreeBelow n (separatedList p separator) (separatedList p' separator) := by
  intro c hc
  rw [Parser.separatedList, Parser.separatedList, hp c hc]
  cases hok : p' c with
  | error e => rfl
  | ok result =>
    have hleft := hkeeps c result.1 result.2 hok
    dsimp only
    rw [hp.separatedMore hseparator (by omega)]

theorem choice {ps ps' : List (Parser τ α)} (h : List.Forall₂ (AgreeBelow n) ps ps') :
    AgreeBelow n (choice ps) (choice ps') := by
  intro c hc
  unfold Parser.choice
  generalize none = best
  induction h generalizing best with
  | nil => rfl
  | @cons p p' ps ps' hp _ ih =>
    rw [choiceAfter, choiceAfter, hp c hc]
    cases p' c with
    | ok result => rfl
    | error e => exact ih _

end AgreeBelow

end Parser

namespace Grammar

open CoachScript.Parser

variable {p : Parser Token Expr} {n : Nat}

/-! ### Expressions -/

theorem mark_keeps (d : Delimiter) : Shortens 0 (mark d) := (mark_yields d).keeps

theorem identifier_shortens : Shortens 1 identifier := by
  refine identifier_yields.shortens ?_
  rintro _ name rfl
  exact Nat.le_refl 1

/-- The arguments of a call are read behind its name. -/
theorem call_agree (h : AgreeBelow n p expression) : AgreeBelow (n + 1) (call p) (call expression) := by
  rw [call, call, five_eq_both, five_eq_both]
  have hargs := h.separatedList expression_yields.keeps (mark_keeps .comma)
  exact .map _ (.behind (k := 0) path_yields.keeps (.behind identifier_shortens
    (.behind (mark_keeps .openParen) (hargs.before _))))

/-- **An expression is a call of expressions or a literal.** -/
theorem expression_eq : expression = choice [call expression, literal] := by
  funext c
  have hbelow : AgreeBelow c.rest.length (below c.rest.length expression) expression :=
    fun _ hc => if_pos hc
  have hbody : AgreeBelow (c.rest.length + 1)
      (choice [call (below c.rest.length expression), literal]) (choice [call expression, literal]) :=
    .choice (.cons (call_agree hbelow) (.cons (.refl _) .nil))
  rw [← hbody c (Nat.lt_succ_self _)]
  exact recursive_eq _ c

/-- The pattern of a delimiter. -/
def markPattern (d : Delimiter) : Pattern Token Unit := .asUnit (.equal Token.text (.delimiter d))

/-- The pattern of an identifier. -/
def identifierPattern : Pattern Token String := .satisfy Token.text identifier? "identifier"

/-- The pattern of a literal. -/
def literalPattern : Pattern Token Expr := .map .value (.satisfy Token.text literal? "literal or call")

/-- The pattern of a step. -/
def stepPattern (word : String) : Pattern Token Unit :=
  .asUnit (.both (.expected id identifierPattern word) (.equal Token.text (.operator .dot)))

/-- The pattern of a path. -/
def pathPattern : Pattern Token Path :=
  .choice [.map (fun _ => Path.root) (stepPattern "root"),
    .map (fun steps => Path.levels steps.length) (.many (stepPattern "parent"))].get

/-- The pattern of a call whose arguments are read by `expression`. -/
def callPattern (expression : Pattern Token Expr) : Pattern Token Expr :=
  .map (fun (path, name, _, args, _) => Expr.call path name args)
    (.five pathPattern identifierPattern (markPattern .openParen)
      (.separatedList expression (markPattern .comma))
      (.within "argument list" (markPattern .closeParen)))

/-- The pattern of expressions with calls in each other up to a depth, and `bottom` below. -/
def expressionPattern (bottom : Pattern Token Expr) : Nat → Pattern Token Expr
  | 0 => bottom
  | depth + 1 =>
    .deferred fun _ => .choice [callPattern (expressionPattern bottom depth), literalPattern].get

/-- The pattern of a block of statements. -/
def blockPattern (expression : Pattern Token Expr) : Pattern Token (List Expr) :=
  .within "statement block"
    (.delimited (markPattern .openBrace)
      (.map (fun statements => statements.filterMap id)
        (.separatedList (.optional expression) (markPattern .semicolon)))
      (markPattern .closeBrace))

/-- The pattern of the statements of a line. -/
def statementsPattern (expression : Pattern Token Expr) : Pattern Token (List Expr) :=
  .choice [blockPattern expression, .map (fun e => [e]) expression,
    .map (fun _ => []) (.finished Token.text)].get

/-- The pattern of a line. -/
def linePattern (expression : Pattern Token Expr) : Pattern Token Line :=
  .within "script line"
    (.map (fun ((condition, _, name, _, statements), _) => ⟨condition, name.getD "", statements⟩)
      (.both
        (.five (.within "condition" expression) (markPattern .colon)
          (.optional (.satisfy Token.text lineName? "line name")) (markPattern .colon)
          (statementsPattern expression))
        (.finished Token.text)))

/-! ### Separators -/

theorem markPattern_advances (d : Delimiter) : (markPattern d).parser.Advances :=
  asUnit_advances (equal_advances Token.text (.delimiter d))

variable {e bottom : Pattern Token Expr}

theorem pathPattern_separatorsAdvance : pathPattern.SeparatorsAdvance
  | 0 => ⟨trivial, trivial⟩
  | 1 => ⟨trivial, trivial⟩

theorem callPattern_separatorsAdvance (h : e.SeparatorsAdvance) : (callPattern e).SeparatorsAdvance :=
  ⟨pathPattern_separatorsAdvance, trivial, trivial, ⟨h, trivial, markPattern_advances .comma⟩, trivial⟩

theorem expressionPattern_separatorsAdvance (h : bottom.SeparatorsAdvance) (depth : Nat) :
    (expressionPattern bottom depth).SeparatorsAdvance := by
  induction depth with
  | zero => exact h
  | succ depth ih =>
    intro k
    match k with
    | 0 => exact callPattern_separatorsAdvance ih
    | 1 => trivial

theorem statementsPattern_separatorsAdvance (h : e.SeparatorsAdvance) :
    (statementsPattern e).SeparatorsAdvance
  | 0 => ⟨trivial, ⟨h, trivial, markPattern_advances .semicolon⟩, trivial⟩
  | 1 => h
  | 2 => trivial

theorem linePattern_separatorsAdvance (h : e.SeparatorsAdvance) : (linePattern e).SeparatorsAdvance :=
  ⟨⟨h, trivial, trivial, trivial, statementsPattern_separatorsAdvance h⟩, trivial⟩

/-! ### Unfolding -/

theorem expressionPattern_agree (bottom : Pattern Token Expr) (depth : Nat) :
    AgreeBelow depth (expressionPattern bottom depth).parser expression := by
  induction depth with
  | zero => exact fun c hc => absurd hc (Nat.not_lt_zero _)
  | succ depth ih =>
    rw [expression_eq]
    exact .choice (.cons (call_agree ih) (.cons (.refl _) .nil))

theorem blockPattern_agree (h : AgreeBelow n e.parser expression) :
    AgreeBelow n (blockPattern e).parser block := by
  have hitems : AgreeBelow n (separatedList (optional e.parser) (mark .semicolon))
      (separatedList (optional expression) (mark .semicolon)) :=
    h.optional.separatedList optional_expression_yields.keeps (mark_keeps .semicolon)
  unfold blockPattern block
  dsimp only [Pattern.parser]
  rw [delimited_eq_both, delimited_eq_both]
  exact .within _ (.map _ (.behind (mark_keeps .openBrace) ((hitems.map _).before _)))

theorem statementsPattern_agree (h : AgreeBelow n e.parser expression) :
    AgreeBelow n (statementsPattern e).parser statements :=
  .choice (.cons (blockPattern_agree h) (.cons (h.map _) (.cons (.refl _) .nil)))

theorem linePattern_agree (h : AgreeBelow n e.parser expression) :
    AgreeBelow n (linePattern e).parser line := by
  unfold linePattern line
  dsimp only [Pattern.parser]
  rw [five_eq_both, five_eq_both]
  have hcondition := h.within "condition"
  have hmore := AgreeBelow.behind (mark_keeps .colon) (.behind optional_lineName_yields.keeps
    (.behind (mark_keeps .colon) (statementsPattern_agree h)))
  exact .within _ (.map _ (((hcondition.before _).trans
    (.behind (within_yields expression_yields).keeps hmore)).before _))

/-- **Reading a line comes to its end.** The calls in it are no deeper in each other than there are tokens, so it
does not matter what stands below; no loop takes more turns than there are tokens, and one more. A line ends
with its last token, and an error is at one of its tokens or at its end. -/
theorem line_walk {bottom : Pattern Token Expr} (hbottom : bottom.SeparatorsAdvance) {ts : List Token}
    {depth turns : Nat} (hdepth : ts.length < depth) (hturns : ts.length < turns) (start : Nat) :
    (linePattern (expressionPattern bottom depth)).walk ts turns start = some (line.readAt ts start) ∧
      (∀ l stop, line.readAt ts start = .ok (l, stop) → stop = max start ts.length) ∧
      ∀ e, line.readAt ts start = .error e → start ≤ e.position ∧ e.position ≤ max start ts.length := by
  have hagree := linePattern_agree (expressionPattern_agree bottom depth)
  have hadvance := linePattern_separatorsAdvance (expressionPattern_separatorsAdvance hbottom depth)
  have hends := (linePattern (expressionPattern bottom depth)).walk_tracks hadvance hturns start
  have hleft := Cursor.length_at ts start
  rw [hagree (.at ts start) (by omega)] at hends
  have hread := hends.eq_readAt
  refine ⟨hread, fun l stop hok => ?_, fun e herror => ?_⟩
  · rw [hread, hok] at hends
    have hnone := line_exhausts _ _ _ hends.eq_ok
    have hlength := Cursor.length_at ts stop
    rw [hnone, List.length_nil] at hlength
    have hle := hends.le_stop
    omega
  · rw [hread, herror] at hends
    exact hends.le_position

end Grammar

end CoachScript
