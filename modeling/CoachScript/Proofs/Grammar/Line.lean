import CoachScript.Proofs.Grammar.Expression

/-!
# Derivations of lines

* `NameTree`, `StatementsTree`, `LineTree`: the derivations of `name`, `statements` and `line`, one
  constructor for each alternative; `tokens` is what a derivation derives, `LineTree.line` the
  line it stands for.
* `line_iff`: **the parser of lines gives a line exactly where one is derived**.
* `LineTree.tokens_append_inj`: at most one line stands in front of a `;`.
-/

namespace CoachScript

/-- A derivation of `name`. -/
inductive NameTree where
  | identifier (name : String)
  | string (text : String)
  | integer (digits : String)
deriving DecidableEq

/-- A derivation of `statements`. In a block each place before, between and behind the semicolons
holds an expression or nothing. -/
inductive StatementsTree where
  | block (first : Option Expr) (more : List (Option Expr))
  | one (e : Expr)
  | nothing
deriving DecidableEq

/-- A derivation of `line`. -/
structure LineTree where
  condition : Expr
  name : Option NameTree
  statements : StatementsTree
deriving DecidableEq

namespace NameTree

/-- The token that a name is. -/
def token : NameTree → Token
  | .identifier name => .identifier name
  | .string text => .string text
  | .integer digits => .integer digits

/-- The text of a name. -/
def text : NameTree → String
  | .identifier name => name
  | .string text => text
  | .integer digits => digits

end NameTree

/-- The tokens of a part that may be missing. -/
def optionTokens (f : α → List Token) : Option α → List Token
  | some a => f a
  | none => []

namespace StatementsTree

/-- The tokens of the statements of a line. -/
def tokens : StatementsTree → List Token
  | .block first more =>
    .delimiter .openBrace ::
      (optionTokens Expr.tokens first
        ++ more.flatMap (fun item => .delimiter .semicolon :: optionTokens Expr.tokens item)
        ++ [.delimiter .closeBrace])
  | .one e => e.tokens
  | .nothing => []

/-- The expressions among the statements of a line, in order. -/
def statements : StatementsTree → List Expr
  | .block first more => (first :: more).filterMap id
  | .one e => [e]
  | .nothing => []

end StatementsTree

namespace LineTree

/-- The tokens of a line. -/
def tokens (t : LineTree) : List Token :=
  t.condition.tokens ++ .delimiter .colon ::
    (optionTokens (fun name => [name.token]) t.name ++ .delimiter .colon :: t.statements.tokens)

/-- The line that a derivation stands for; without a name it has the empty one. -/
def line (t : LineTree) : Line where
  condition := t.condition
  name := (t.name.map NameTree.text).getD ""
  statements := t.statements.statements

end LineTree

namespace Grammar

open CoachScript.Parser

variable {rest : List Token}

/-! ### Names -/

theorem lineName?_token (n : NameTree) : lineName? n.token = some n.text := by cases n <;> rfl

theorem lineName?_eq_some {t : Token} {text : String} (h : lineName? t = some text) :
    ∃ n : NameTree, t = n.token ∧ n.text = text := by
  cases t with
  | identifier name => exact ⟨.identifier name, rfl, Option.some.inj h⟩
  | string s => exact ⟨.string s, rfl, Option.some.inj h⟩
  | integer digits => exact ⟨.integer digits, rfl, Option.some.inj h⟩
  | keyword | operator | delimiter | float | blanks | newline | comment => cases h

theorem optional_lineName_reads (name : Option NameTree) :
    Reads (optional lineName) (optionTokens (fun name => [name.token]) name)
      (name.map NameTree.text) (.delimiter .colon :: rest) := by
  cases name with
  | some n => exact optional_reads (satisfy_reads (lineName?_token n))
  | none => exact optional_reads_none (satisfy_refuses (by simp [lineName?]))

theorem optional_lineName_yields :
    Yields (optional lineName) (fun ts o => ∃ name : Option NameTree,
      ts = optionTokens (fun name => [name.token]) name ∧ name.map NameTree.text = o) := by
  refine (optional_yields satisfy_yields).mono ?_
  rintro ts o (⟨rfl, rfl⟩ | ⟨text, rfl, t, rfl, ht⟩)
  · exact ⟨none, rfl, rfl⟩
  · obtain ⟨n, rfl, rfl⟩ := lineName?_eq_some ht
    exact ⟨some n, rfl, rfl⟩

/-! ### Statements -/

theorem optional_expression_reads (item : Option Expr) {d : Delimiter} :
    Reads (optional expression) (optionTokens Expr.tokens item) item (.delimiter d :: rest) := by
  cases item with
  | some e => exact optional_reads (expression_reads e _)
  | none =>
    exact optional_reads_none (expression_refuses (by simp [identifier?]) (by simp [literal?]))

theorem optional_expression_yields :
    Yields (optional expression) (fun ts item => ts = optionTokens Expr.tokens item) := by
  refine (optional_yields expression_yields).mono ?_
  rintro ts item (⟨rfl, rfl⟩ | ⟨e, rfl, rfl⟩) <;> rfl

theorem block_reads (first : Option Expr) (more : List (Option Expr)) :
    Reads block (StatementsTree.block first more).tokens ((first :: more).filterMap id) rest := by
  let items := separated (.delimiter .semicolon) (optionTokens Expr.tokens) (first :: more)
  have hitems : Reads (separatedList (optional expression) (mark .semicolon)) items
      (first :: more) (.delimiter .closeBrace :: rest) := by
    refine separatedList_reads ?_ (fun _ => mark_reads .semicolon) (mark_refuses (by simp)) nofun
      (Nat.lt_succ_self _)
    rintro item - after (rfl | hafter) -
    · exact optional_expression_reads item
    · obtain ⟨after, rfl⟩ := List.head?_eq_some_iff.mp hafter
      exact optional_expression_reads item
  have hparts := both_reads (mark_reads .openBrace) (both_reads
    (map_reads (f := fun statements => statements.filterMap id) hitems) (mark_reads .closeBrace))
  rw [block, delimited_eq_both]
  exact within_reads (map_reads hparts)

theorem block_refuses (h : rest.head? ≠ some (.delimiter .openBrace)) : Refuses block rest := by
  rw [block, delimited_eq_both]
  exact within_refuses (map_refuses (both_refuses_left (mark_refuses h)))

theorem block_yields :
    Yields block (fun ts statements => ∃ s : StatementsTree,
      ts = s.tokens ∧ s.statements = statements) := by
  rw [block, delimited_eq_both]
  refine within_yields (map_yields (both_yields (mark_yields .openBrace) (both_yields
    (map_yields (separatedList_yields optional_expression_yields (mark_yields .semicolon))
      (S := fun ts statements => ∃ items : List (Option Expr),
        ts = separated (.delimiter .semicolon) (optionTokens Expr.tokens) items
          ∧ items.filterMap id = statements) (fun _ items h => ⟨items, h, rfl⟩))
    (mark_yields .closeBrace))) ?_)
  rintro _ ⟨_, statements, _⟩ ⟨_, _, rfl, rfl, _, _, rfl, ⟨items, rfl, rfl⟩, rfl⟩
  cases items with
  | nil => exact ⟨.block none [], rfl, rfl⟩
  | cons first more => exact ⟨.block first more, by simp [StatementsTree.tokens, separated], rfl⟩

/-- At the end of a line its statements are read. -/
theorem statements_reads (s : StatementsTree) :
    Reads Grammar.statements s.tokens s.statements [] := by
  cases s with
  | block first more => exact choice_reads (block_reads first more)
  | one e =>
    have hblock : Refuses block (e.tokens ++ []) := by
      apply block_refuses
      intro hhead
      obtain ⟨us, hus⟩ := List.head?_eq_some_iff.mp hhead
      exact e.tokens_append_ne_delimiter [] us _ hus
    exact choice_reads_second hblock (map_reads (expression_reads e []))
  | nothing =>
    have hblock : Refuses block [] := block_refuses (by simp)
    have hone : Refuses (map (fun e => [e]) expression) [] :=
      map_refuses (expression_refuses (by simp) (by simp))
    exact choiceAfter_reads_later hblock
      (choiceAfter_reads_later hone (choiceAfter_reads (map_reads finished_reads))) none

theorem statements_yields :
    Yields Grammar.statements (fun ts statements => ∃ s : StatementsTree,
      ts = s.tokens ∧ s.statements = statements) := by
  apply choice_yields
  simp only [List.mem_cons, List.not_mem_nil, or_false, forall_eq_or_imp, forall_eq]
  refine ⟨block_yields, map_yields expression_yields ?_, map_yields finished_yields ?_⟩
  · rintro ts e rfl
    exact ⟨.one e, rfl, rfl⟩
  · rintro ts _ rfl
    exact ⟨.nothing, rfl, rfl⟩

/-! ### Lines -/

theorem condition_reads (e : Expr) :
    Reads (within "condition" expression) e.tokens e rest := within_reads (expression_reads e rest)

theorem line_reads (t : LineTree) : Reads line t.tokens t.line [] := by
  have hend : Reads (finished Token.text) [] () [] := finished_reads
  have hparts := both_reads (both_reads (condition_reads t.condition) (both_reads
    (mark_reads .colon) (both_reads (optional_lineName_reads t.name) (both_reads
      (mark_reads .colon) (statements_reads t.statements))))) hend
  rw [List.append_nil] at hparts
  rw [line, five_eq_both]
  exact within_reads (map_reads hparts)

theorem line_yields : Yields line (fun ts l => ∃ t : LineTree, ts = t.tokens ∧ t.line = l) := by
  rw [line, five_eq_both]
  refine within_yields (map_yields (both_yields (both_yields (within_yields expression_yields)
    (both_yields (mark_yields .colon) (both_yields optional_lineName_yields
      (both_yields (mark_yields .colon) statements_yields)))) finished_yields) ?_)
  rintro _ ⟨⟨condition, _, name, _, statements⟩, _⟩ ⟨_, _, rfl, ⟨_, _, rfl, rfl, _, _, rfl, rfl, _, _,
    rfl, ⟨n, rfl, rfl⟩, _, _, rfl, rfl, s, rfl, rfl⟩, rfl⟩
  exact ⟨⟨condition, n, s⟩, by simp [LineTree.tokens], rfl⟩

theorem line_exhausts : Exhausts line := by
  rw [line]
  exact within_exhausts (map_exhausts (both_exhausts finished_exhausts))

/-- The parser of lines gives a line exactly where one is derived. -/
theorem line_iff (ts : List Token) (l : Line) :
    (∃ c, line ⟨0, ts⟩ = .ok (l, c)) ↔ ∃ t : LineTree, t.tokens = ts ∧ t.line = l := by
  constructor
  · rintro ⟨c, h⟩
    obtain ⟨us, hus, t, rfl, rfl⟩ := line_yields _ _ _ h
    rw [line_exhausts _ _ _ h, List.append_nil] at hus
    exact ⟨t, hus.symm, rfl⟩
  · rintro ⟨t, rfl, rfl⟩
    have hread := line_reads t 0
    rw [List.append_nil] at hread
    exact ⟨_, hread⟩

end Grammar

/-! ### At most one derivation -/

theorem optionTokens_append_inj {item item' : Option Expr} {d d' : Delimiter}
    {us us' : List Token} (hus : us.head? = some (.delimiter d))
    (hus' : us'.head? = some (.delimiter d'))
    (h : optionTokens Expr.tokens item ++ us = optionTokens Expr.tokens item' ++ us') :
    item = item' ∧ us = us' := by
  obtain ⟨vs, rfl⟩ := List.head?_eq_some_iff.mp hus
  obtain ⟨vs', rfl⟩ := List.head?_eq_some_iff.mp hus'
  cases item with
  | none =>
    cases item' with
    | none => exact ⟨rfl, h⟩
    | some e' => exact absurd h.symm (e'.tokens_append_ne_delimiter _ _ _)
  | some e =>
    cases item' with
    | none => exact absurd h (e.tokens_append_ne_delimiter _ _ _)
    | some e' =>
      obtain ⟨rfl, htail⟩ := Expr.tokens_append_inj h
      exact ⟨rfl, htail⟩

/-- The tokens of the statements of a block behind the first, and the brace that closes it. -/
def blockEnd (more : List (Option Expr)) : List Token :=
  more.flatMap (fun item => .delimiter .semicolon :: optionTokens Expr.tokens item)
    ++ [.delimiter .closeBrace]

theorem blockEnd_cons (item : Option Expr) (more : List (Option Expr)) :
    blockEnd (item :: more)
      = .delimiter .semicolon :: (optionTokens Expr.tokens item ++ blockEnd more) := by
  simp [blockEnd]

theorem blockEnd_head (more : List (Option Expr)) (us : List Token) :
    ∃ d, (blockEnd more ++ us).head? = some (.delimiter d) := by
  cases more with
  | nil => exact ⟨_, rfl⟩
  | cons item more => exact ⟨_, rfl⟩

theorem blockEnd_append_inj {more more' : List (Option Expr)} {us us' : List Token}
    (h : blockEnd more ++ us = blockEnd more' ++ us') : more = more' ∧ us = us' := by
  induction more generalizing more' with
  | nil =>
    cases more' with
    | nil => exact ⟨rfl, List.append_cancel_left h⟩
    | cons item' more' =>
      rw [blockEnd_cons] at h
      injection h with hhead
      cases hhead
  | cons item more ih =>
    cases more' with
    | nil =>
      rw [blockEnd_cons] at h
      injection h with hhead
      cases hhead
    | cons item' more' =>
      simp only [blockEnd_cons, List.cons_append, List.append_assoc, List.cons.injEq,
        true_and] at h
      obtain ⟨d, hd⟩ := blockEnd_head more us
      obtain ⟨d', hd'⟩ := blockEnd_head more' us'
      obtain ⟨rfl, htail⟩ := optionTokens_append_inj hd hd' h
      obtain ⟨rfl, rfl⟩ := ih htail
      exact ⟨rfl, rfl⟩

namespace StatementsTree

theorem tokens_block (first : Option Expr) (more : List (Option Expr)) :
    (StatementsTree.block first more).tokens
      = .delimiter .openBrace :: (optionTokens Expr.tokens first ++ blockEnd more) := by
  simp [tokens, blockEnd]

theorem tokens_append_inj {s s' : StatementsTree} {us us' : List Token}
    (h : s.tokens ++ .delimiter .semicolon :: us = s'.tokens ++ .delimiter .semicolon :: us') :
    s = s' ∧ us = us' := by
  cases s with
  | block first more =>
    rw [tokens_block] at h
    cases s' with
    | block first' more' =>
      rw [tokens_block] at h
      simp only [List.cons_append, List.append_assoc, List.cons.injEq, true_and] at h
      obtain ⟨d, hd⟩ := blockEnd_head more (.delimiter .semicolon :: us)
      obtain ⟨d', hd'⟩ := blockEnd_head more' (.delimiter .semicolon :: us')
      obtain ⟨rfl, htail⟩ := optionTokens_append_inj hd hd' h
      obtain ⟨rfl, hus⟩ := blockEnd_append_inj htail
      exact ⟨rfl, List.tail_eq_of_cons_eq hus⟩
    | one e' => exact absurd h.symm (e'.tokens_append_ne_delimiter _ _ _)
    | nothing => simp [tokens] at h
  | one e =>
    cases s' with
    | block first' more' =>
      rw [tokens_block] at h
      exact absurd h (e.tokens_append_ne_delimiter _ _ _)
    | one e' =>
      obtain ⟨rfl, hus⟩ := Expr.tokens_append_inj h
      exact ⟨rfl, List.tail_eq_of_cons_eq hus⟩
    | nothing => exact absurd h (e.tokens_append_ne_delimiter _ _ _)
  | nothing =>
    cases s' with
    | block first' more' => simp [tokens] at h
    | one e' => exact absurd h.symm (e'.tokens_append_ne_delimiter _ _ _)
    | nothing => exact ⟨rfl, List.tail_eq_of_cons_eq h⟩

end StatementsTree

theorem NameTree.token_inj {n n' : NameTree} (h : n.token = n'.token) : n = n' := by
  cases n <;> cases n' <;> cases h <;> rfl

theorem NameTree.tokens_append_inj {name name' : Option NameTree} {us us' : List Token}
    (h : optionTokens (fun name => [name.token]) name ++ .delimiter .colon :: us
      = optionTokens (fun name => [name.token]) name' ++ .delimiter .colon :: us') :
    name = name' ∧ us = us' := by
  have hcolon (n : NameTree) (vs vs' : List Token) :
      n.token :: vs ≠ .delimiter .colon :: vs' := by cases n <;> simp [token]
  cases name with
  | none =>
    cases name' with
    | none => exact ⟨rfl, List.tail_eq_of_cons_eq h⟩
    | some n' => exact absurd h.symm (hcolon n' _ _)
  | some n =>
    cases name' with
    | none => exact absurd h (hcolon n _ _)
    | some n' =>
      obtain ⟨htoken, hcons⟩ := List.cons.inj h
      exact ⟨by rw [NameTree.token_inj htoken], List.tail_eq_of_cons_eq hcons⟩

namespace LineTree

/-- At most one line stands in front of a semicolon. -/
theorem tokens_append_inj {t t' : LineTree} {us us' : List Token}
    (h : t.tokens ++ .delimiter .semicolon :: us = t'.tokens ++ .delimiter .semicolon :: us') :
    t = t' ∧ us = us' := by
  obtain ⟨condition, name, statements⟩ := t
  obtain ⟨condition', name', statements'⟩ := t'
  simp only [tokens, List.append_assoc, List.cons_append] at h
  obtain ⟨rfl, hname⟩ := Expr.tokens_append_inj h
  obtain ⟨rfl, hstatements⟩ := NameTree.tokens_append_inj (List.tail_eq_of_cons_eq hname)
  obtain ⟨rfl, rfl⟩ := StatementsTree.tokens_append_inj hstatements
  exact ⟨rfl, rfl⟩

theorem tokens_ne_nil (t : LineTree) : t.tokens ≠ [] := by
  simp [tokens]

theorem tokens_append_ne_delimiter (t : LineTree) (us us' : List Token) (d : Delimiter) :
    t.tokens ++ us ≠ .delimiter d :: us' := by
  rw [tokens, List.append_assoc]
  exact t.condition.tokens_append_ne_delimiter _ us' d

end LineTree

end CoachScript
