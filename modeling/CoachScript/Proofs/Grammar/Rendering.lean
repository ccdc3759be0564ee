import CoachScript.Proofs.Grammar.Script
import CoachScript.Proofs.Grammar.Spelling

/-!
# Rendered lines are read back

* `Expr.spelled`, `Line.spelled`: the names and numbers in an expression or a line can be written
  as they are.
* `spells_source`: in front of a blank or a mark, a spelled expression is scanned as its tokens.
* **`readListing_join_render`**: spelled lines, rendered one after another, are read back.
-/

namespace CoachScript

/-! ### What can be written as it is -/

/-- The digits of a number make up a number of its kind. -/
def Value.spelled : Value → Bool
  | .integer digits => isIntegerText digits
  | .float digits => isFloatText digits
  | .bool _ | .string _ | .null => true

mutual

/-- Every call has a name, and every number its digits. -/
def Expr.spelled : Expr → Bool
  | .value v => v.spelled
  | .call _ name args => isName name && Expr.spelledAll args

/-- The same of every expression in a list. -/
def Expr.spelledAll : List Expr → Bool
  | [] => true
  | e :: es => e.spelled && Expr.spelledAll es

end

theorem Expr.spelledAll_iff {es : List Expr} :
    Expr.spelledAll es ↔ ∀ e ∈ es, e.spelled := by
  induction es with
  | nil => simp [Expr.spelledAll]
  | cons e es ih => simp [Expr.spelledAll, ih]

/-- The name of a line that can be written as it is: none, an identifier or an integer. -/
def isPlainName (name : String) : Bool := name.isEmpty || isName name || isIntegerText name

/-- The parts of a line can be written as they are. -/
def Line.spelled (l : Line) : Bool :=
  l.condition.spelled && isPlainName l.name && Expr.spelledAll l.statements

theorem stops_cons {c : Char} {rest : List Char} (h : c ∈ [' ', ',', ')', ';']) :
    Stops (c :: rest) := by
  have hall : [' ', ',', ')', ';'].all fun c => !Lexeme.isNameRest c && c != '.' := by decide
  have hc := List.all_eq_true.mp hall c h
  rw [Bool.and_eq_true, Bool.not_eq_true', bne_iff_ne] at hc
  rintro d ⟨⟩
  exact hc

/-! ### Expressions -/

section Expressions

variable {rest : List Char}

theorem spells_value (v : Value) (h : v.spelled) (hrest : Stops rest) :
    Spells v.source [v.token] rest := by
  have hword : ∀ c ∈ rest.head?, Lexeme.isNameRest c = false := fun c hc => (hrest c hc).1
  cases v with
  | integer digits => exact .of_first (Lexeme.first?_integer h hrest) rfl
  | float digits => exact .of_first (Lexeme.first?_float h hrest) rfl
  | string text => exact .of_first (Lexeme.first?_string text rest) rfl
  | null => exact .of_first (Lexeme.first?_keyword .null hword) rfl
  | bool b =>
    cases b with
    | true => exact .of_first (Lexeme.first?_keyword .true hword) rfl
    | false => exact .of_first (Lexeme.first?_keyword .false hword) rfl

theorem spells_step (word : String) (h : isName word) :
    Spells (word.toList ++ ['.']) (stepTokens word) rest :=
  (spells_name h (by rintro c ⟨⟩; decide)).append spells_dot

theorem spells_path (path : Path) : Spells path.source path.tokens rest := by
  cases path with
  | root => exact spells_step "root" (by decide)
  | levels n =>
    dsimp only [Path.source, Path.tokens]
    induction n with
    | zero => exact .nil
    | succ n ih =>
      rw [List.replicate_succ, List.replicate_succ, List.flatten_cons, List.flatMap_cons]
      exact (spells_step "parent" (by decide)).append ih

mutual

/-- In front of a blank or a mark, a spelled expression is scanned as its tokens. -/
theorem spells_source : (e : Expr) → e.spelled → ∀ rest, Stops rest → Spells e.source e.tokens rest
  | .value v, h, rest, hrest => by
    rw [Expr.source, Expr.tokens]
    exact spells_value v h hrest
  | .call path name args, h, rest, _ => by
    obtain ⟨hname, hargs⟩ := (Bool.and_eq_true _ _).mp h
    have hlist := spells_sourceAll args hargs ([')'] ++ rest) (stops_cons (by decide))
    have hword : Spells name.toList [.identifier name]
        (['('] ++ (Expr.sourceAll args ++ ([')'] ++ rest))) :=
      spells_name hname (by rintro c ⟨⟩; decide)
    have hparts := ((((spells_path path).append hword).append (spells_mark .openParen)).append
      hlist).append (spells_mark .closeParen)
    rw [Expr.source, Expr.tokens]
    simpa only [List.append_assoc, List.cons_append, List.nil_append] using hparts

/-- The same of the arguments of a call. -/
theorem spells_sourceAll : (es : List Expr) → Expr.spelledAll es → ∀ rest, Stops rest →
    Spells (Expr.sourceAll es) (Expr.argTokens es) rest
  | [], _, rest, _ => by
    rw [Expr.sourceAll, Expr.argTokens]
    exact .nil
  | [e], h, rest, hrest => by
    obtain ⟨he, -⟩ := (Bool.and_eq_true _ _).mp h
    rw [Expr.sourceAll, Expr.argTokens, Expr.moreTokens, List.append_nil]
    exact spells_source e he rest hrest
  | e :: e' :: more, h, rest, hrest => by
    obtain ⟨he, hmore⟩ := (Bool.and_eq_true _ _).mp h
    have hfirst := spells_source e he ([','] ++ ([' '] ++ (Expr.sourceAll (e' :: more) ++ rest)))
      (stops_cons (by decide))
    have hparts := ((hfirst.append (spells_mark .comma)).append (spells_space rfl)).append
      (spells_sourceAll (e' :: more) hmore rest hrest)
    rw [Expr.sourceAll]
    · simpa [Expr.argTokens, Expr.moreTokens] using hparts
    · exact nofun

end

end Expressions

/-! ### Lines -/

/-- The derivation of a name from its text. -/
def NameTree.ofText? (name : String) : Option NameTree :=
  if name.isEmpty then none
  else if isName name then some (.identifier name)
  else some (.integer name)

/-- The derivation of the statements of a rendered line. In a block there is a semicolon behind
each, and nothing behind the last. -/
def StatementsTree.ofStatements : List Expr → StatementsTree
  | [] => .block none []
  | [e] => .one e
  | e :: more => .block (some e) (more.map some ++ [none])

/-- The derivation of a rendered line. -/
def Line.tree (l : Line) : LineTree :=
  ⟨l.condition, NameTree.ofText? l.name, .ofStatements l.statements⟩

theorem Line.line_tree (l : Line) : l.tree.line = l := by
  obtain ⟨condition, name, statements⟩ := l
  have hname : ((NameTree.ofText? name).map NameTree.text).getD "" = name := by
    unfold NameTree.ofText?
    split_ifs with hempty
    · exact (String.isEmpty_iff.mp hempty).symm
    · rfl
    · rfl
  have hstatements : (StatementsTree.ofStatements statements).statements = statements := by
    match statements with
    | [] => rfl
    | [e] => rfl
    | e :: e' :: more => simp [StatementsTree.ofStatements, StatementsTree.statements]
  simp only [Line.tree, LineTree.line, hname, hstatements]

section Lines

variable {rest : List Char}

theorem spells_lineName {name : String} (h : isPlainName name) :
    Spells name.toList (optionTokens (fun n => [NameTree.token n]) (NameTree.ofText? name)) (' ' :: rest) := by
  have hstops : Stops (' ' :: rest) := stops_cons (by decide)
  simp only [isPlainName, Bool.or_eq_true] at h
  unfold NameTree.ofText?
  split_ifs with hempty hname
  · rw [String.isEmpty_iff.mp hempty]
    exact .nil
  · exact spells_name hname fun c hc => (hstops c hc).1
  · have hinteger := (h.resolve_left (not_or.mpr ⟨hempty, hname⟩))
    exact .of_first (Lexeme.first?_integer hinteger hstops) rfl

/-- The tokens of statements with a semicolon behind each. -/
def statementTokens (es : List Expr) : List Token :=
  es.flatMap fun e => e.tokens ++ [.delimiter .semicolon]

theorem statementTokens_cons (e : Expr) (more : List Expr) :
    statementTokens (e :: more) = e.tokens ++ (more.map some ++ [none]).flatMap
      (fun item => .delimiter .semicolon :: optionTokens Expr.tokens item) := by
  induction more generalizing e with
  | nil => simp [statementTokens, optionTokens]
  | cons e' more ih =>
    have hmore := ih e'
    unfold statementTokens at hmore ⊢
    rw [List.flatMap_cons, hmore]
    simp [optionTokens]

theorem spells_statement {e : Expr} (h : e.spelled) :
    Spells (e.source ++ [';', ' ']) (e.tokens ++ [.delimiter .semicolon]) rest := by
  have hsource := spells_source e h ([';'] ++ ([' '] ++ rest)) (stops_cons (by decide))
  simpa using (hsource.append (spells_mark .semicolon)).append (spells_space rfl)

theorem spells_block {es : List Expr} (h : ∀ e ∈ es, e.spelled) (rest : List Char) :
    Spells ("\x7b ".toList ++ es.flatMap (fun e => e.source ++ [';', ' ']) ++ ['\x7d'])
      (.delimiter .openBrace :: (statementTokens es ++ [.delimiter .closeBrace])) rest := by
  have hstatements := Spells.flatMap (fun e he _ => spells_statement (h e he)) (['\x7d'] ++ rest)
  exact (((spells_mark .openBrace).append (spells_space rfl)).append hstatements).append
    (spells_mark .closeBrace)

theorem spells_body : ∀ {es : List Expr}, (∀ e ∈ es, e.spelled) → ∀ rest,
    Spells (Line.body es) (StatementsTree.ofStatements es).tokens (';' :: rest)
  | [], h, rest => spells_block h (';' :: rest)
  | [e], h, _ => spells_source e (h e List.mem_cons_self) _ (stops_cons (by decide))
  | e :: e' :: more, h, rest => by
    have hblock := spells_block h (';' :: rest)
    rw [statementTokens_cons] at hblock
    exact hblock

/-- A rendered line is scanned as its tokens and a semicolon, whatever follows it. -/
theorem spells_line {l : Line} (h : l.spelled) (rest : List Char) :
    Spells l.source (l.tree.tokens ++ [.delimiter .semicolon]) rest := by
  simp only [Line.spelled, Bool.and_eq_true] at h
  obtain ⟨⟨hcondition, hname⟩, hstatements⟩ := h
  have hcolon {after : List Char} : Spells " : ".toList [.delimiter .colon] after :=
    ((spells_space rfl).append (spells_mark .colon)).append (spells_space rfl)
  have hbody := spells_body (Expr.spelledAll_iff.mp hstatements) rest
  have hend : Spells [';'] [.delimiter .semicolon] rest := spells_mark .semicolon
  have hafter := hcolon.append (hbody.append hend)
  have hparts := (spells_source _ hcondition _ (stops_cons (by decide))).append
    (hcolon.append ((spells_lineName hname).append hafter))
  unfold Line.source LineTree.tokens
  simp only [List.append_assoc, List.cons_append, List.nil_append] at hparts ⊢
  exact hparts

end Lines

/-! ### Listings -/

/-- A text is read as a listing exactly if it is scanned to its end and its words derive a script with
these lines. -/
theorem readListing_iff_scan {source : String} {ls : Listing} :
    readListing source = .ok ls ↔ (scan Position.start source.toList).rest = [] ∧
      ∃ s : ScriptTree, s.tokens = (scan Position.start source.toList).words ∧ s.lines = ls := by
  unfold readListing tokens? Scan.result
  cases hrest : (scan Position.start source.toList).rest with
  | nil =>
    simp only [true_and]
    exact readSegments_iff source _ ls
  | cons c rest => simp

/-- A text that is scanned as the tokens of a script is read as its lines. -/
theorem readListing_of_spells {source : String} {s : ScriptTree}
    (h : Spells source.toList s.tokens []) : readListing source = .ok s.lines := by
  obtain ⟨hrest, hwords⟩ := h Position.start
  have hend : scan (Position.start.advance source.toList) [] =
      ⟨[], Position.start.advance source.toList, []⟩ := scan_of_none rfl
  rw [List.append_nil, hend] at hrest hwords
  exact readListing_iff_scan.mpr ⟨hrest, s, (hwords.trans (List.append_nil _)).symm, rfl⟩

/-- **Rendered lines are read back**, one after another. -/
theorem readListing_join_render (ls : Listing) (h : ∀ l ∈ ls, l.spelled) :
    readListing (String.join (ls.map Line.render)) = .ok ls := by
  let s : ScriptTree := ls.map fun l => some l.tree
  have hsource : (String.join (ls.map Line.render)).toList = ls.flatMap Line.source := by
    simp [String.toList_join, List.flatMap_map, Line.render]
  have htokens : s.tokens = ls.flatMap fun l => l.tree.tokens ++ [.delimiter .semicolon] := by
    simp [s, ScriptTree.tokens, List.flatMap_map, optionTokens]
  have hlines : s.lines = ls := by
    simp [s, ScriptTree.lines, List.filterMap_map, Function.comp_def, Line.line_tree]
  have hspells := Spells.flatMap (fun l hl => spells_line (h l hl)) []
  rw [← hsource, ← htokens] at hspells
  rw [readListing_of_spells hspells, hlines]

/-- A call two levels up with a text that looks like script, and a block of two statements. -/
theorem readListing_join_render_nested :
    let ls : Listing :=
      [⟨.call .root "root" [.value (.string "a\"//;\\\n)"),
          .call (.levels 2) "parent" [.value (.float "-1.50"), .value .null]], "-12",
        [.call (.levels 0) "a" [], .value (.bool true)]⟩,
       ⟨.value (.integer "007"), "", []⟩]
    (∀ l ∈ ls, l.spelled) ∧ readListing (String.join (ls.map Line.render)) = .ok ls := by
  intro ls
  have hspelled : ∀ l ∈ ls, l.spelled := by decide +kernel
  exact ⟨hspelled, readListing_join_render ls hspelled⟩

end CoachScript
