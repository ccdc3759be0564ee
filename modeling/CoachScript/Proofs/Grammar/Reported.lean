import CoachScript.Proofs.Grammar.Kinds
import CoachScript.Proofs.Grammar.Rendering

/-!
# Which lines survive being rendered

A line that was read is shown in messages as it is rendered. Its name is written as it is, also if
it was read from a string literal.

* `spelled_of_readListing`: all parts of a line that was read can be written as they are, but
  perhaps its name.
* `quotesIn`, `Token.quotes`: the quotes and backslashes in a text, and those that a token needs.
  **A scan finds no more string literals than there are quotes** (`quotes_scan_le`), and a rendered
  expression has just those it needs (`quotesIn_source`).
* **`readListing_render_iff`**: a line that was read is read back from its rendering exactly if its
  name can be written as it is.
-/

namespace CoachScript

/-! ### Lines that were read -/

theorem spelled_scan (place : Position) (text : List Char) :
    ∀ t ∈ (scan place text).words, t.spelled := by
  induction text using Lexeme.induction generalizing place with
  | stop text hfirst =>
    rw [scan_of_none hfirst]
    exact fun t ht => nomatch ht
  | step text l hfirst ih =>
    intro t ht
    rw [words_scan_of_first place hfirst, List.mem_append] at ht
    rcases ht with ht | ht
    · split_ifs at ht
      · cases ht
      · rw [List.mem_singleton.mp ht]
        exact Lexeme.spelled_first hfirst
    · exact ih _ t ht

mutual

theorem Expr.spelled_of_tokens : (e : Expr) → (∀ t ∈ e.tokens, t.spelled) → e.spelled
  | .value v, h => by
    have hv := h v.token (by simp [Expr.tokens])
    rcases v with _ | _ | b | _ | _
    case integer | float => exact hv
    all_goals rfl
  | .call path name args, h => by
    have hname := h (.identifier name) (by simp [Expr.tokens])
    refine (Bool.and_eq_true _ _).mpr ⟨hname, Expr.spelledAll_of_tokens args fun t ht => ?_⟩
    exact h t (by simp [Expr.tokens, ht])

theorem Expr.spelledAll_of_tokens : (es : List Expr) → (∀ t ∈ Expr.argTokens es, t.spelled) →
    Expr.spelledAll es
  | [], _ => rfl
  | [e], h => by
    refine (Bool.and_eq_true _ _).mpr ⟨e.spelled_of_tokens fun t ht => ?_, rfl⟩
    exact h t (by simp [Expr.argTokens, ht])
  | e :: e' :: more, h => by
    refine (Bool.and_eq_true _ _).mpr ⟨e.spelled_of_tokens fun t ht => ?_,
      Expr.spelledAll_of_tokens (e' :: more) fun t ht => ?_⟩
    · exact h t (by simp [Expr.argTokens, ht])
    · refine h t ?_
      simp only [Expr.argTokens, Expr.moreTokens, List.mem_append, List.mem_cons] at ht ⊢
      exact .inr (.inr ht)

end

theorem StatementsTree.mem_tokens {s : StatementsTree} {e : Expr} (he : e ∈ s.statements) :
    ∀ t ∈ e.tokens, t ∈ s.tokens := by
  intro t ht
  cases s with
  | nothing => cases he
  | one e' =>
    rw [List.mem_singleton.mp he] at ht
    exact ht
  | block first more =>
    simp only [StatementsTree.statements, List.mem_filterMap, id_eq, exists_eq_right,
      List.mem_cons] at he
    simp only [StatementsTree.tokens, List.mem_cons, List.mem_append, List.mem_flatMap]
    rcases he with rfl | he
    · exact .inr (.inl (.inl ht))
    · exact .inr (.inl (.inr ⟨some e, he, .inr ht⟩))

/-- A line that is derived from spelled tokens is spelled, but perhaps its name. -/
theorem LineTree.spelled_line {t : LineTree} (h : ∀ u ∈ t.tokens, u.spelled) :
    t.line.condition.spelled ∧ Expr.spelledAll t.line.statements := by
  constructor
  · exact t.condition.spelled_of_tokens fun u hu => h u (List.mem_append_left _ hu)
  · refine Expr.spelledAll_iff.mpr fun e he => e.spelled_of_tokens fun u hu => h u ?_
    have hmem := StatementsTree.mem_tokens he u hu
    simp only [LineTree.tokens, List.mem_append, List.mem_cons]
    exact .inr (.inr (.inr (.inr hmem)))

/-- What is read is derived from the words of the text. -/
theorem tree_of_readListing {source : String} {ls : Listing} (h : readListing source = .ok ls) :
    ∃ s : ScriptTree, s.tokens = (scan Position.start source.toList).words ∧ s.lines = ls :=
  (readListing_iff_scan.mp h).2

theorem ScriptTree.mem_lines {s : ScriptTree} {l : Line} (h : l ∈ s.lines) :
    ∃ t : LineTree, some t ∈ s ∧ t.line = l := by
  simpa [ScriptTree.lines] using h

theorem ScriptTree.mem_tokens {s : ScriptTree} {t : LineTree} (h : some t ∈ s) :
    ∀ u ∈ t.tokens, u ∈ s.tokens :=
  fun _ hu => List.mem_flatMap.mpr ⟨some t, h, List.mem_append_left _ hu⟩

/-- A line that was read is spelled, but perhaps its name. -/
theorem spelled_of_readListing {source : String} {ls : Listing} (h : readListing source = .ok ls)
    {l : Line} (hl : l ∈ ls) : l.condition.spelled ∧ Expr.spelledAll l.statements := by
  obtain ⟨s, hs, rfl⟩ := tree_of_readListing h
  obtain ⟨t, ht, rfl⟩ := ScriptTree.mem_lines hl
  refine LineTree.spelled_line fun u hu => spelled_scan Position.start source.toList u ?_
  rw [← hs]
  exact ScriptTree.mem_tokens ht u hu

/-! ### Quotes -/

/-- A character that stands in a literal only behind a backslash. -/
def isQuote (c : Char) : Bool := c == '"' || c == '\\'

/-- How many quotes and backslashes a text has. -/
def quotesIn (text : List Char) : Nat := text.countP isQuote

/-- How many quotes and backslashes it takes to write a token. -/
def Token.quotes : Token → Nat
  | .string text => 2 + 2 * quotesIn text.toList
  | _ => 0

/-- The same of a sequence of tokens. -/
def quotesOf : List Token → Nat
  | [] => 0
  | t :: ts => t.quotes + quotesOf ts

@[simp] theorem quotesIn_nil : quotesIn [] = 0 := rfl

@[simp] theorem quotesIn_cons (c : Char) (text : List Char) :
    quotesIn (c :: text) = quotesIn text + if isQuote c then 1 else 0 := List.countP_cons

@[simp] theorem quotesIn_append (text more : List Char) :
    quotesIn (text ++ more) = quotesIn text + quotesIn more := List.countP_append

@[simp] theorem quotesOf_nil : quotesOf [] = 0 := rfl

@[simp] theorem quotesOf_cons (t : Token) (ts : List Token) :
    quotesOf (t :: ts) = t.quotes + quotesOf ts := rfl

@[simp] theorem quotesOf_append (ts us : List Token) :
    quotesOf (ts ++ us) = quotesOf ts + quotesOf us := by
  induction ts with
  | nil => exact (Nat.zero_add _).symm
  | cons t ts ih => rw [List.cons_append, quotesOf_cons, quotesOf_cons, ih, Nat.add_assoc]

namespace Lexeme

/-- The inside of a literal has a quote or backslash for each that it stands for, and a backslash
more. -/
theorem Denotes.quotesIn_le {inside value : List Char} (h : Denotes inside value) :
    2 * quotesIn value ≤ quotesIn inside := by
  induction h with
  | nil => exact Nat.le_refl _
  | @plain c inside value hquote hbackslash _ ih =>
    have hplain : isQuote c = false := by simp [isQuote, hquote, hbackslash]
    simp only [quotesIn_cons, hplain]
    exact ih
  | @escape c meant inside value hc _ ih =>
    have hsame : isQuote meant = true → isQuote c = true := by
      simp only [List.mem_cons, Prod.mk.injEq, List.not_mem_nil, or_false] at hc
      rcases hc with ⟨rfl, rfl⟩ | ⟨rfl, rfl⟩ | ⟨rfl, rfl⟩ | ⟨rfl, rfl⟩
      all_goals decide
    have hbackslash : isQuote '\\' = true := rfl
    simp only [quotesIn_cons, hbackslash]
    by_cases hmeant : isQuote meant = true
    · simp only [hmeant, hsame hmeant, if_true]
      omega
    · simp only [hmeant, Bool.false_eq_true, if_true, if_false]
      omega

theorem quotes_wordToken (word : List Char) : (wordToken word).quotes = 0 := by
  unfold wordToken
  split <;> rfl

/-- A lexeme has the quotes that its token takes. -/
theorem first?_quotes {text : List Char} {l : Lexeme} (h : first? text = some l) :
    l.token.quotes ≤ quotesIn l.text := by
  cases isFirst_of_first h with
  | string hinside =>
    have hquotes := hinside.quotesIn_le
    have hquote : isQuote '"' = true := rfl
    simp only [Token.quotes, String.toList_ofList, quotesIn_cons, quotesIn_append, quotesIn_nil, hquote,
      if_true]
    omega
  | word => exact Nat.le_trans (Nat.le_of_eq (quotes_wordToken _)) (Nat.zero_le _)
  | blanks | newline | comment | integer | float | dot | delimiter => exact Nat.zero_le _

end Lexeme

/-- **A scan finds no more string literals than there are quotes.** -/
theorem quotes_scan_le (place : Position) (text : List Char) :
    quotesOf (scan place text).words ≤ quotesIn text := by
  induction text using Lexeme.induction generalizing place with
  | stop text hfirst =>
    rw [scan_of_none hfirst]
    exact Nat.zero_le _
  | step text l hfirst ih =>
    have htoken := Lexeme.first?_quotes hfirst
    have hmore := ih (place.advance l.text)
    rw [words_scan_of_first place hfirst, ← Lexeme.text_append_rest hfirst, quotesOf_append,
      quotesIn_append]
    split_ifs
    · exact Nat.add_le_add (Nat.zero_le _) hmore
    · exact Nat.add_le_add (by simpa using htoken) hmore

/-! ### Rendered lines -/

theorem isQuote_of_isNameRest {c : Char} (h : Lexeme.isNameRest c) : isQuote c = false := by
  rw [Bool.eq_false_iff]
  intro hquote
  have hall : ['"', '\\'].all (!Lexeme.isNameRest ·) := by decide
  simp only [isQuote, Bool.or_eq_true, beq_iff_eq] at hquote
  have hc := List.all_eq_true.mp hall c (by simpa using hquote)
  rw [h] at hc
  cases hc

theorem quotesIn_eq_zero {text : List Char} (h : ∀ c ∈ text, Lexeme.isNameRest c) :
    quotesIn text = 0 := by
  rw [quotesIn, List.countP_eq_zero]
  intro c hc
  rw [isQuote_of_isNameRest (h c hc)]
  exact Bool.false_ne_true

theorem quotesIn_digits {digits : List Char} (h : isDigits digits) : quotesIn digits = 0 :=
  quotesIn_eq_zero fun c hc => Lexeme.isNameRest_of_digit ((isDigits_iff.mp h).2 c hc)

theorem quotesIn_name {name : String} (h : isName name) : quotesIn name.toList = 0 := by
  unfold isName at h
  split at h
  · cases h
  next c text hname =>
    simp only [Bool.and_eq_true, List.all_eq_true] at h
    obtain ⟨⟨hc, htext⟩, -⟩ := h
    rw [hname]
    refine quotesIn_eq_zero fun d hd => ?_
    rcases List.mem_cons.mp hd with rfl | hd
    · exact Lexeme.isNameRest_of_start hc
    · exact htext d hd

theorem quotesIn_withoutMinus (text : List Char) :
    quotesIn text = quotesIn (withoutMinus text) := by
  obtain ⟨sign, htext, hsign⟩ := withoutMinus_eq text
  have hnone : quotesIn sign = 0 := by rcases hsign with rfl | rfl <;> rfl
  have hsplit := congrArg quotesIn htext
  rwa [quotesIn_append, hnone, Nat.zero_add] at hsplit

theorem quotesIn_escapeString (text : List Char) :
    quotesIn (escapeString text) = 2 * quotesIn text := by
  induction text with
  | nil => rfl
  | cons c text ih =>
    rw [escapeString]
    split_ifs with hc
    · have hquote : isQuote c = true := by rcases hc with rfl | rfl <;> rfl
      have hbackslash : isQuote '\\' = true := rfl
      simp [hquote, hbackslash, ih]
      omega
    · rw [not_or] at hc
      have hquote : isQuote c = false := by simp [isQuote, hc]
      simp [hquote, ih]

theorem Value.quotesIn_source {v : Value} (h : v.spelled) :
    quotesIn v.source = v.token.quotes := by
  cases v with
  | integer digits =>
    show quotesIn digits.toList = 0
    rw [quotesIn_withoutMinus]
    exact quotesIn_digits h
  | float digits =>
    show quotesIn digits.toList = 0
    obtain ⟨whole, fraction, hnumber, hwhole, hfraction⟩ := Lexeme.isFloatText_eq h
    rw [quotesIn_withoutMinus, hnumber, quotesIn_append, quotesIn_cons, quotesIn_digits hwhole,
      quotesIn_digits hfraction]
    rfl
  | string text =>
    have hquote : isQuote '"' = true := rfl
    simp [Value.source, Value.token, Token.quotes, quotesIn_escapeString, hquote]
    omega
  | bool b => cases b <;> decide
  | null => decide

theorem Path.quotesIn_source (path : Path) : quotesIn path.source = quotesOf path.tokens := by
  cases path with
  | root => decide
  | levels n =>
    dsimp only [Path.source, Path.tokens]
    induction n with
    | zero => rfl
    | succ n ih =>
      rw [List.replicate_succ, List.replicate_succ, List.flatten_cons, List.flatMap_cons,
        quotesIn_append, quotesOf_append, ih]
      rfl

mutual

/-- A rendered expression has just the quotes that its tokens take. -/
theorem Expr.quotesIn_source : (e : Expr) → e.spelled → quotesIn e.source = quotesOf e.tokens
  | .value v, h => by
    rw [Expr.source, Expr.tokens, v.quotesIn_source h]
    simp
  | .call path name args, h => by
    obtain ⟨hname, hargs⟩ := (Bool.and_eq_true _ _).mp h
    have hlist := Expr.quotesIn_sourceAll args hargs
    rw [Expr.source, Expr.tokens]
    have hopen : isQuote '(' = false := rfl
    have hclose : isQuote ')' = false := rfl
    simp [path.quotesIn_source, quotesIn_name hname, hlist, hopen, hclose, Token.quotes]

theorem Expr.quotesIn_sourceAll : (es : List Expr) → Expr.spelledAll es →
    quotesIn (Expr.sourceAll es) = quotesOf (Expr.argTokens es)
  | [], _ => by
    rw [Expr.sourceAll, Expr.argTokens]
    rfl
  | [e], h => by
    obtain ⟨he, -⟩ := (Bool.and_eq_true _ _).mp h
    rw [Expr.sourceAll, Expr.argTokens, Expr.moreTokens, List.append_nil]
    exact e.quotesIn_source he
  | e :: e' :: more, h => by
    obtain ⟨he, hmore⟩ := (Bool.and_eq_true _ _).mp h
    have hrest := Expr.quotesIn_sourceAll (e' :: more) hmore
    have hcomma : isQuote ',' = false := rfl
    have hspace : isQuote ' ' = false := rfl
    rw [Expr.argTokens, quotesOf_append] at hrest
    rw [Expr.sourceAll]
    · simp [Expr.argTokens, Expr.moreTokens, e.quotesIn_source he, hrest, hcomma, hspace,
        Token.quotes]
    · exact nofun

end

/-- How many quotes and backslashes it takes to write expressions. -/
def quotesOfAll (es : List Expr) : Nat := quotesOf (es.flatMap Expr.tokens)

@[simp] theorem quotesOfAll_nil : quotesOfAll [] = 0 := rfl

@[simp] theorem quotesOfAll_cons (e : Expr) (es : List Expr) :
    quotesOfAll (e :: es) = quotesOf e.tokens + quotesOfAll es := quotesOf_append _ _

theorem quotesIn_statements {es : List Expr} (h : ∀ e ∈ es, e.spelled) :
    quotesIn (es.flatMap fun e => e.source ++ [';', ' ']) = quotesOfAll es := by
  have hend : quotesIn [';', ' '] = 0 := rfl
  induction es with
  | nil => rfl
  | cons e es ih =>
    rw [List.flatMap_cons, quotesIn_append, quotesIn_append, hend, Nat.add_zero,
      e.quotesIn_source (h e List.mem_cons_self), ih fun e' he' => h e' (List.mem_cons_of_mem e he'),
      quotesOfAll_cons]

theorem quotesIn_body : ∀ {es : List Expr}, (∀ e ∈ es, e.spelled) →
    quotesIn (Line.body es) = quotesOfAll es
  | [], _ => rfl
  | [e], h => by
    rw [Line.body, quotesOfAll_cons, quotesOfAll_nil, Nat.add_zero,
      e.quotesIn_source (h e List.mem_cons_self)]
  | e :: e' :: more, h => by
    have hopen : quotesIn "\x7b ".toList = 0 := rfl
    have hclose : quotesIn ['\x7d'] = 0 := rfl
    rw [Line.body, quotesIn_append, quotesIn_append, hopen, hclose, quotesIn_statements h,
      Nat.zero_add, Nat.add_zero]
    exact nofun

theorem Line.quotesIn_source {l : Line} (hcondition : l.condition.spelled)
    (hstatements : Expr.spelledAll l.statements) :
    quotesIn l.source =
      quotesOf l.condition.tokens + quotesIn l.name.toList + quotesOfAll l.statements := by
  have hcolon : quotesIn " : ".toList = 0 := rfl
  have hend : quotesIn [';'] = 0 := rfl
  simp only [Line.source, quotesIn_append, hcolon, hend, l.condition.quotesIn_source hcondition,
    quotesIn_body (Expr.spelledAll_iff.mp hstatements), Nat.add_zero]

@[simp] theorem optionTokens_none {α : Type} (f : α → List Token) : optionTokens f none = [] := rfl

@[simp] theorem optionTokens_some {α : Type} (f : α → List Token) (a : α) :
    optionTokens f (some a) = f a := rfl

/-- The expressions of a block are what it has besides marks. -/
theorem quotesOf_items (items : List (Option Expr)) :
    quotesOf (items.flatMap fun item => .delimiter .semicolon :: optionTokens Expr.tokens item) =
      quotesOfAll (items.filterMap id) := by
  induction items with
  | nil => rfl
  | cons item items ih => cases item <;> simp [Token.quotes, ih]

theorem StatementsTree.quotesOf_tokens (s : StatementsTree) :
    quotesOf s.tokens = quotesOfAll s.statements := by
  cases s with
  | nothing => rfl
  | one e => simp [StatementsTree.tokens, StatementsTree.statements]
  | block first more =>
    have hitems := quotesOf_items more
    cases first <;> simp [StatementsTree.tokens, StatementsTree.statements, Token.quotes, hitems]

theorem LineTree.quotesOf_tokens (t : LineTree) :
    quotesOf t.tokens = quotesOf t.condition.tokens +
      quotesOf (optionTokens (fun n => [NameTree.token n]) t.name) + quotesOfAll t.statements.statements := by
  simp only [LineTree.tokens, quotesOf_append, quotesOf_cons, Token.quotes,
    StatementsTree.quotesOf_tokens]
  omega

theorem ScriptTree.quotesOf_le {s : ScriptTree} {t : LineTree} (h : some t ∈ s) :
    quotesOf t.tokens ≤ quotesOf s.tokens := by
  obtain ⟨before, after, rfl⟩ := List.append_of_mem h
  simp only [ScriptTree.tokens, List.flatMap_append, List.flatMap_cons, optionTokens_some,
    quotesOf_append]
  omega

/-- A name from a string literal does not come from a text with just the quotes in the name. -/
theorem isPlainName_of_quotes {t : LineTree} (hspelled : ∀ u ∈ t.tokens, u.spelled)
    (hquotes : quotesOf t.tokens ≤ quotesIn t.line.source) : isPlainName t.line.name := by
  obtain ⟨hcondition, hstatements⟩ := t.spelled_line hspelled
  rw [Line.quotesIn_source hcondition hstatements, t.quotesOf_tokens] at hquotes
  obtain ⟨condition, name, statements⟩ := t
  have hname : ∀ n, name = some n → n.token.spelled := by
    rintro n rfl
    exact hspelled n.token (by simp [LineTree.tokens])
  rcases name with _ | n | text | digits
  · rfl
  · have hn : isName n := hname _ rfl
    simp [isPlainName, LineTree.line, NameTree.text, hn]
  · simp only [NameTree.token, optionTokens_some, quotesOf_cons, Token.quotes, quotesOf_nil,
      LineTree.line, Option.map_some, NameTree.text, Option.getD_some] at hquotes
    omega
  · have hn : isIntegerText digits := hname _ rfl
    simp [isPlainName, LineTree.line, NameTree.text, hn]

/-- **A line that was read is read back from its rendering exactly if its name can be written as it
is**: if it is empty, an identifier or an integer. -/
theorem readListing_render_iff {source : String} {ls : Listing} (h : readListing source = .ok ls)
    {l : Line} (hl : l ∈ ls) : readListing l.render = .ok [l] ↔ isPlainName l.name := by
  obtain ⟨hcondition, hstatements⟩ := spelled_of_readListing h hl
  have htext : l.render.toList = l.source := String.toList_ofList
  constructor
  · intro hread
    obtain ⟨s, hs, hlines⟩ := tree_of_readListing hread
    obtain ⟨t, ht, rfl⟩ := ScriptTree.mem_lines (hlines ▸ List.mem_singleton_self l)
    rw [htext] at hs
    apply isPlainName_of_quotes
    · intro u hu
      refine spelled_scan Position.start t.line.source u ?_
      rw [← hs]
      exact ScriptTree.mem_tokens ht u hu
    · have hscan := quotes_scan_le Position.start t.line.source
      rw [← hs] at hscan
      exact Nat.le_trans (ScriptTree.quotesOf_le ht) hscan
  · intro hname
    have hspelled : l.spelled := by simp [Line.spelled, hcondition, hname, hstatements]
    have hspells := spells_line hspelled []
    have htokens : ScriptTree.tokens [some l.tree] = l.tree.tokens ++ [.delimiter .semicolon] := by
      simp [ScriptTree.tokens]
    rw [← htext, ← htokens] at hspells
    rw [readListing_of_spells hspells]
    simp [ScriptTree.lines, Line.line_tree]

/-- Two names from string literals: an identifier, which comes back, and two words. -/
theorem readListing_render_iff_literal :
    ∃ l l', readListing "TRUE : \"q1\" : ; FALSE : \"a b\" : run();" = .ok [l, l'] ∧
      readListing l.render = .ok [l] ∧ readListing l'.render ≠ .ok [l'] := by
  have hread : readListing "TRUE : \"q1\" : ; FALSE : \"a b\" : run();" =
      .ok [⟨.value (.bool true), "q1", []⟩,
        ⟨.value (.bool false), "a b", [.call (.levels 0) "run" []]⟩] := by
    apply eq_ok_of_toOption
    decide +kernel
  refine ⟨_, _, hread, ?_, fun hagain => ?_⟩
  · exact (readListing_render_iff hread (by decide)).mpr (by decide)
  · have hplain := (readListing_render_iff hread (by decide)).mp hagain
    exact absurd hplain (by decide)

end CoachScript

