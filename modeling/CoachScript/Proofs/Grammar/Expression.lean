import CoachScript.Script.Grammar
import CoachScript.Proofs.Grammar.Parser

/-!
# Expressions and their tokens

Values, paths and expressions have one constructor for each alternative of their rules, so an
`Expr` is its own derivation: `Expr.tokens` is what it derives.

* `expression_reads`: **the parser reads the tokens of an expression, whatever follows them**.
* `expression_yields`: all that the parser reads are the tokens of the expression it gives.
* `Expr.tokens_append_inj`: at most one expression begins a sequence of tokens.
-/

namespace CoachScript

/-- The token that is a value. -/
def Value.token : Value → Token
  | .integer digits => .integer digits
  | .float digits => .float digits
  | .bool true => .keyword .true
  | .bool false => .keyword .false
  | .string text => .string text
  | .null => .keyword .null

/-- A word and the dot behind it. -/
def stepTokens (word : String) : List Token := [.identifier word, .operator .dot]

/-- The tokens of a path. -/
def Path.tokens : Path → List Token
  | .levels n => (List.replicate n ()).flatMap (fun _ => stepTokens "parent")
  | .root => stepTokens "root"

namespace Expr

mutual

/-- The tokens of an expression. -/
def tokens : Expr → List Token
  | .value v => [v.token]
  | .call path name args =>
    path.tokens ++ .identifier name :: .delimiter .openParen ::
      (argTokens args ++ [.delimiter .closeParen])

/-- The tokens of the arguments of a call, a comma between two. -/
def argTokens : List Expr → List Token
  | [] => []
  | e :: more => e.tokens ++ moreTokens more

/-- The tokens of the arguments behind the first, a comma before each. -/
def moreTokens : List Expr → List Token
  | [] => []
  | e :: more => .delimiter .comma :: (e.tokens ++ moreTokens more)

end

theorem moreTokens_eq (es : List Expr) :
    moreTokens es = es.flatMap (fun e => .delimiter .comma :: e.tokens) := by
  induction es with
  | nil => simp [moreTokens]
  | cons e es ih => simp [moreTokens, ih]

theorem argTokens_eq (es : List Expr) :
    argTokens es = Parser.separated (.delimiter .comma) tokens es := by
  cases es with
  | nil => simp [argTokens, Parser.separated]
  | cons e es => simp [argTokens, Parser.separated, moreTokens_eq]

end Expr

namespace Grammar

open CoachScript.Parser

variable {rest : List Token}

/-! ### Marks, literals and paths -/

theorem mark_reads (d : Delimiter) : Reads (mark d) [.delimiter d] () rest :=
  asUnit_reads equal_reads

theorem mark_refuses {d : Delimiter} (h : rest.head? ≠ some (.delimiter d)) :
    Refuses (mark d) rest := asUnit_refuses (equal_refuses h)

theorem mark_yields (d : Delimiter) : Yields (mark d) (fun ts _ => ts = [.delimiter d]) :=
  (asUnit_yields equal_yields).mono (fun _ _ ⟨_, h⟩ => h)

theorem identifier_reads (name : String) : Reads identifier [.identifier name] name rest :=
  satisfy_reads rfl

theorem identifier_yields : Yields identifier (fun ts name => ts = [.identifier name]) := by
  refine satisfy_yields.mono ?_
  rintro ts name ⟨t, rfl, ht⟩
  cases t <;> cases ht
  rfl

theorem literal?_token (v : Value) : literal? v.token = some v := by
  rcases v with _ | _ | b | _ | _
  case bool => cases b <;> rfl
  all_goals rfl

theorem literal?_eq_some {t : Token} {v : Value} (h : literal? t = some v) : t = v.token := by
  cases t with
  | keyword word => cases word <;> cases h <;> rfl
  | string | integer | float => cases h; rfl
  | identifier | operator | delimiter | blanks | newline | comment => cases h

theorem literal_reads (v : Value) : Reads literal [v.token] (.value v) rest :=
  map_reads (satisfy_reads (literal?_token v))

theorem literal_yields : Yields literal (fun ts e => ts = e.tokens) := by
  refine map_yields satisfy_yields ?_
  rintro ts v ⟨t, rfl, ht⟩
  rw [literal?_eq_some ht, Expr.tokens]

theorem step_reads (word : String) : Reads (step word) (stepTokens word) () rest :=
  asUnit_reads (both_reads (expected_reads (identifier_reads word)) equal_reads)

theorem step_yields (word : String) : Yields (step word) (fun ts _ => ts = stepTokens word) := by
  refine (asUnit_yields (both_yields (expected_yields identifier_yields) equal_yields)).mono ?_
  rintro ts ⟨⟩ ⟨⟨name, t⟩, us, vs, rfl, ⟨rfl, rfl⟩, rfl⟩
  rfl

/-- A word that is not followed by a dot is no step, even if it is spelled like one. -/
theorem step_refuses_name {word name : String} {t : Token} (ht : t ≠ .operator .dot) :
    Refuses (step word) (.identifier name :: t :: rest) := by
  apply asUnit_refuses
  by_cases hname : name = word
  · subst hname
    exact both_refuses_right (expected_reads (identifier_reads name))
      (equal_refuses (by simpa using ht))
  · exact both_refuses_left (expected_refuses_ne (identifier_reads name) hname)

theorem step_refuses_ne {word other : String} (h : other ≠ word) :
    Refuses (step word) (.identifier other :: rest) :=
  asUnit_refuses (both_refuses_left (expected_refuses_ne (identifier_reads other) h))

theorem step_refuses {word : String} (h : ∀ t ∈ rest.head?, identifier? t = none) :
    Refuses (step word) rest :=
  asUnit_refuses (both_refuses_left (expected_refuses (satisfy_refuses h)))

/-- In front of a name that is no step, the path of a call is read. -/
theorem path_reads (path : Path) (name : String) {t : Token} (ht : t ≠ .operator .dot) :
    Reads Grammar.path path.tokens path (.identifier name :: t :: rest) := by
  cases path with
  | root => exact choice_reads (map_reads (step_reads "root"))
  | levels n =>
    have hroot : Refuses (step "root")
        ((Path.levels n).tokens ++ .identifier name :: t :: rest) := by
      cases n with
      | zero => exact step_refuses_name ht
      | succ n => exact step_refuses_ne (by decide)
    have hmany : Reads (many (step "parent")) (Path.levels n).tokens (List.replicate n ())
        (.identifier name :: t :: rest) :=
      many_reads (fun _ _ => Nat.succ_pos _) (fun _ _ _ => step_reads "parent")
        (step_refuses_name ht)
    have hlevels := map_reads (f := fun steps => Path.levels steps.length) hmany
    rw [List.length_replicate] at hlevels
    exact choice_reads_second (map_refuses hroot) hlevels

/-- In front of anything but a name, the path is empty. -/
theorem path_reads_nil (h : ∀ t ∈ rest.head?, identifier? t = none) :
    Reads Grammar.path [] (.levels 0) rest :=
  choice_reads_second (map_refuses (step_refuses h)) (map_reads (many_reads_nil (step_refuses h)))

theorem path_yields : Yields Grammar.path (fun ts path => ts = path.tokens) := by
  apply choice_yields
  simp only [List.mem_cons, List.not_mem_nil, or_false, forall_eq_or_imp, forall_eq]
  constructor
  · exact map_yields (step_yields "root") (fun _ _ h => h)
  · refine map_yields (many_yields (step_yields "parent")) ?_
    rintro ts steps rfl
    have hsteps : steps = List.replicate steps.length () :=
      List.eq_replicate_iff.mpr ⟨rfl, fun _ _ => rfl⟩
    rw [Path.tokens, ← hsteps]

/-! ### Expressions -/

theorem identifier?_token (v : Value) : identifier? v.token = none := by
  rcases v with _ | _ | b | _ | _
  case bool => cases b <;> rfl
  all_goals rfl

theorem call_refuses (p : Parser Token Expr) (h : ∀ t ∈ rest.head?, identifier? t = none) :
    Refuses (call p) rest := by
  have hname : Refuses identifier rest := satisfy_refuses h
  rw [call, five_eq_both]
  exact map_refuses (both_refuses_right (path_reads_nil h) (both_refuses_left hname))

theorem call_reads {p : Parser Token Expr} {n : Nat} {args : List Expr}
    (hargs : ∀ e ∈ args, ∀ after, (e.tokens ++ after).length < n → Reads p e.tokens e after)
    (hstop : Refuses p (.delimiter .closeParen :: rest)) (path : Path) (name : String)
    (hn : (Expr.argTokens args ++ .delimiter .closeParen :: rest).length < n) :
    Reads (call p) (Expr.call path name args).tokens (.call path name args) rest := by
  have hlist : Reads (separatedList p (mark .comma)) (Expr.argTokens args) args
      (.delimiter .closeParen :: rest) := by
    rw [Expr.argTokens_eq] at hn ⊢
    exact separatedList_reads (fun e he after _ => hargs e he after) (fun _ => mark_reads .comma)
      (mark_refuses (by simp)) (fun _ => hstop) hn
  have hclose : Reads (within "argument list" (mark .closeParen)) [.delimiter .closeParen] ()
      rest := within_reads (mark_reads .closeParen)
  rw [call, five_eq_both, Expr.tokens]
  have hparts := both_reads (path_reads path name (by decide)) (both_reads (identifier_reads name)
    (both_reads (mark_reads .openParen) (both_reads hlist hclose)))
  exact map_reads hparts

theorem call_yields {p : Parser Token Expr} (h : Yields p (fun ts e => ts = e.tokens)) :
    Yields (call p) (fun ts e => ts = e.tokens) := by
  rw [call, five_eq_both]
  refine map_yields (both_yields path_yields (both_yields identifier_yields (both_yields
    (mark_yields .openParen) (both_yields (separatedList_yields h (mark_yields .comma))
      (within_yields (mark_yields .closeParen)))))) ?_
  rintro _ ⟨path, name, _, args, _⟩
    ⟨_, _, rfl, rfl, _, _, rfl, rfl, _, _, rfl, rfl, _, _, rfl, rfl, rfl⟩
  simp [Expr.tokens, Expr.argTokens_eq]

/-- No expression begins with a token that is neither a name nor a literal. -/
theorem expression_refuses (hname : ∀ t ∈ rest.head?, identifier? t = none)
    (hliteral : ∀ t ∈ rest.head?, literal? t = none) : Refuses expression rest := by
  intro position
  rw [expression, recursive_eq]
  refine choice_refuses ?_ position
  simp only [List.mem_cons, List.not_mem_nil, or_false, forall_eq_or_imp, forall_eq]
  exact ⟨call_refuses _ hname, map_refuses (satisfy_refuses hliteral)⟩

mutual

/-- The parser reads the tokens of an expression, whatever follows them. -/
theorem expression_reads : (e : Expr) → (rest : List Token) → Reads expression e.tokens e rest
  | .value v, rest => by
    intro position
    rw [expression, recursive_eq, Expr.tokens]
    exact choice_reads_second (call_refuses _ (by simp [identifier?_token])) (literal_reads v)
      position
  | .call path name args, rest => by
    intro position
    rw [expression, recursive_eq]
    -- The arguments are shorter than the call, so the parser may enter itself there.
    refine choice_reads (call_reads (n := ((Expr.call path name args).tokens ++ rest).length)
      ?_ ?_ path name ?_) position
    · intro e he after hn
      exact below_reads (expression_reads_all args e he after) hn
    · exact below_refuses (expression_refuses (by simp [identifier?]) (by simp [literal?]))
    · simp only [Expr.tokens, List.length_append, List.length_cons]
      omega

/-- The same of every argument. -/
theorem expression_reads_all :
    (es : List Expr) → ∀ e ∈ es, ∀ rest, Reads expression e.tokens e rest
  | [], _, he, _ => nomatch he
  | e :: es, e', he, rest => by
    rcases List.mem_cons.mp he with heq | he
    · rw [heq]
      exact expression_reads e rest
    · exact expression_reads_all es e' he rest

end

/-- All that the parser reads are the tokens of the expression it gives. -/
theorem expression_yields : Yields expression (fun ts e => ts = e.tokens) := by
  refine recursive_yields (fun p h => choice_yields ?_)
  simp only [List.mem_cons, List.not_mem_nil, or_false, forall_eq_or_imp, forall_eq]
  exact ⟨call_yields h, literal_yields⟩

end Grammar

namespace Expr

/-- At most one expression begins a sequence of tokens. -/
theorem tokens_append_inj {e e' : Expr} {us us' : List Token}
    (h : e.tokens ++ us = e'.tokens ++ us') : e = e' ∧ us = us' := by
  have he := Grammar.expression_reads e us 0
  have he' := Grammar.expression_reads e' us' 0
  rw [h, he'] at he
  injection he with he
  injection he with he hcursor
  injection hcursor with _ hus
  exact ⟨he.symm, hus.symm⟩

/-- No expression begins with a delimiter. -/
theorem tokens_append_ne_delimiter (e : Expr) (us us' : List Token) (d : Delimiter) :
    e.tokens ++ us ≠ .delimiter d :: us' := by
  intro h
  have hrefuses : Parser.Refuses Grammar.expression (.delimiter d :: us') :=
    Grammar.expression_refuses (by simp [Grammar.identifier?]) (by simp [Grammar.literal?])
  obtain ⟨error, herror⟩ := hrefuses 0
  rw [← h, Grammar.expression_reads e us 0] at herror
  cases herror

end Expr

end CoachScript
