import CoachScript.Script.Reading
import CoachScript.Proofs.Grammar.Line

/-!
# Derivations of scripts

A `ScriptTree` is a derivation of `(line? ';')*`.

* `StaysOpen depth ts`: no token of `ts` ends a line, counted from `depth` open brackets. The
  tokens of a line stay open and close all brackets they open, so a line is cut off exactly at the
  semicolon behind it.
* `readSegments_iff`: the lines of a sequence of tokens are those of its derivation.
* `readListing_iff`: **a text is read as the lines that its tokens derive, and it has at most one
  derivation**.
-/

namespace CoachScript

/-- A derivation of a script: for every semicolon the line before it, if there is one. -/
abbrev ScriptTree := List (Option LineTree)

namespace ScriptTree

/-- The tokens of a script. -/
def tokens (s : ScriptTree) : List Token :=
  s.flatMap (fun item => optionTokens LineTree.tokens item ++ [.delimiter .semicolon])

/-- The lines of a script. -/
def lines (s : ScriptTree) : Listing := (s.filterMap id).map LineTree.line

theorem tokens_cons (item : Option LineTree) (s : ScriptTree) :
    ScriptTree.tokens (item :: s)
      = optionTokens LineTree.tokens item ++ .delimiter .semicolon :: s.tokens := by
  simp [tokens]

/-- A sequence of tokens has at most one derivation. -/
theorem tokens_inj {s s' : ScriptTree} (h : s.tokens = s'.tokens) : s = s' := by
  induction s generalizing s' with
  | nil =>
    cases s' with
    | nil => rfl
    | cons item' s' => simp [tokens] at h
  | cons item s ih =>
    cases s' with
    | nil => simp [tokens] at h
    | cons item' s' =>
      rw [tokens_cons, tokens_cons] at h
      cases item with
      | none =>
        cases item' with
        | none => rw [ih (List.tail_eq_of_cons_eq h)]
        | some t' => exact absurd h.symm (t'.tokens_append_ne_delimiter _ _ _)
      | some t =>
        cases item' with
        | none => exact absurd h (t.tokens_append_ne_delimiter _ _ _)
        | some t' =>
          obtain ⟨rfl, htail⟩ := LineTree.tokens_append_inj h
          rw [ih htail]

end ScriptTree

/-! ### Brackets -/

/-- How a sequence of tokens changes the number of open brackets. -/
def nestingOf : List Token → Int
  | [] => 0
  | t :: ts => t.nesting + nestingOf ts

@[simp] theorem nestingOf_nil : nestingOf [] = 0 := rfl

@[simp] theorem nestingOf_cons (t : Token) (ts : List Token) :
    nestingOf (t :: ts) = t.nesting + nestingOf ts := rfl

@[simp] theorem nestingOf_append (ts us : List Token) :
    nestingOf (ts ++ us) = nestingOf ts + nestingOf us := by
  induction ts with
  | nil => simp
  | cons t ts ih => simp [ih, Int.add_assoc]

/-- No token ends a line, counted from `depth` open brackets. -/
def StaysOpen (depth : Int) : List Token → Prop
  | [] => True
  | t :: ts => t.endsLine depth = false ∧ StaysOpen (depth + t.nesting) ts

@[simp] theorem staysOpen_nil (depth : Int) : StaysOpen depth [] := trivial

@[simp] theorem staysOpen_cons {depth : Int} {t : Token} {ts : List Token} :
    StaysOpen depth (t :: ts)
      ↔ t.endsLine depth = false ∧ StaysOpen (depth + t.nesting) ts := Iff.rfl

@[simp] theorem staysOpen_append {depth : Int} {ts us : List Token} :
    StaysOpen depth (ts ++ us) ↔ StaysOpen depth ts ∧ StaysOpen (depth + nestingOf ts) us := by
  induction ts generalizing depth with
  | nil => simp
  | cons t ts ih => simp [ih, and_assoc, Int.add_assoc]

/-- A part of a line: inside it no line ends, and behind it all its brackets are closed. -/
structure Closed (ts : List Token) : Prop where
  staysOpen : ∀ depth, 0 ≤ depth → StaysOpen depth ts
  nesting : nestingOf ts = 0

namespace Closed

variable {ts us : List Token}

theorem nil : Closed [] := ⟨fun _ _ => trivial, rfl⟩

theorem append (ht : Closed ts) (hu : Closed us) : Closed (ts ++ us) := by
  constructor
  · intro depth hdepth
    rw [staysOpen_append, ht.nesting, Int.add_zero]
    exact ⟨ht.staysOpen depth hdepth, hu.staysOpen depth hdepth⟩
  · rw [nestingOf_append, ht.nesting, hu.nesting, Int.add_zero]

theorem cons {t : Token} (hnesting : t.nesting = 0) (ht : t ≠ .delimiter .semicolon)
    (hu : Closed us) : Closed (t :: us) := by
  constructor
  · intro depth hdepth
    have hends : t.endsLine depth = false := by simp [Token.endsLine, ht]
    rw [staysOpen_cons, hnesting, Int.add_zero]
    exact ⟨hends, hu.staysOpen depth hdepth⟩
  · rw [nestingOf_cons, hnesting, hu.nesting, Int.add_zero]

/-- Between two brackets semicolons may stand: more than no bracket is open there. -/
theorem enclosed {opening closing : Token} (hopening : opening.nesting = 1)
    (hclosing : closing.nesting = -1) (hopen : ∀ depth, 0 < depth → StaysOpen depth ts)
    (hnesting : nestingOf ts = 0) : Closed (opening :: (ts ++ [closing])) := by
  have hends {t : Token} (ht : t.nesting ≠ 0) (depth : Int) : t.endsLine depth = false := by
    have hne : t ≠ .delimiter .semicolon := fun h => ht (h ▸ rfl)
    simp [Token.endsLine, hne]
  constructor
  · intro depth hdepth
    rw [staysOpen_cons, staysOpen_append, staysOpen_cons, hopening]
    exact ⟨hends (by omega) depth, hopen (depth + 1) (by omega), hends (by omega) _, trivial⟩
  · rw [nestingOf_cons, nestingOf_append, nestingOf_cons, hopening, hclosing, hnesting]
    rfl

end Closed

theorem stepTokens_closed (word : String) : Closed (stepTokens word) :=
  .cons rfl nofun (.cons rfl nofun .nil)

theorem Path.tokens_closed (path : Path) : Closed path.tokens := by
  cases path with
  | root => exact stepTokens_closed "root"
  | levels n =>
    rw [Path.tokens]
    induction n with
    | zero => exact .nil
    | succ n ih =>
      rw [List.replicate_succ, List.flatMap_cons]
      exact (stepTokens_closed "parent").append ih

namespace Expr

mutual

/-- The tokens of an expression are a part of a line. -/
theorem tokens_closed : (e : Expr) → Closed e.tokens
  | .value v => by
    rw [tokens]
    rcases v with _ | _ | b | _ | _
    case bool => cases b <;> exact .cons rfl nofun .nil
    all_goals exact .cons rfl nofun .nil
  | .call path name args => by
    have hargs := argTokens_closed args
    have hopen (depth : Int) (hdepth : 0 < depth) : StaysOpen depth (argTokens args) :=
      hargs.staysOpen depth (by omega)
    have hlist : Closed (.delimiter .openParen :: (argTokens args ++ [.delimiter .closeParen])) :=
      .enclosed rfl rfl hopen hargs.nesting
    rw [tokens]
    exact path.tokens_closed.append (.cons rfl nofun hlist)

theorem argTokens_closed : (es : List Expr) → Closed (argTokens es)
  | [] => by
    rw [argTokens]
    exact .nil
  | e :: more => by
    rw [argTokens]
    exact (tokens_closed e).append (moreTokens_closed more)

theorem moreTokens_closed : (es : List Expr) → Closed (moreTokens es)
  | [] => by
    rw [moreTokens]
    exact .nil
  | e :: more => by
    rw [moreTokens]
    exact .cons rfl nofun ((tokens_closed e).append (moreTokens_closed more))

end

end Expr

theorem optionTokens_closed (item : Option Expr) : Closed (optionTokens Expr.tokens item) := by
  cases item with
  | none => exact .nil
  | some e => exact e.tokens_closed

/-- The semicolons of a block stand inside its braces. -/
theorem blockItems_open (more : List (Option Expr)) (depth : Int) (hdepth : 0 < depth) :
    StaysOpen depth
      (more.flatMap (fun item => .delimiter .semicolon :: optionTokens Expr.tokens item)) ∧
    nestingOf
      (more.flatMap (fun item => .delimiter .semicolon :: optionTokens Expr.tokens item)) = 0 := by
  induction more with
  | nil => simp
  | cons item more ih =>
    have hitem := optionTokens_closed item
    have hsemicolon : (Token.delimiter .semicolon).endsLine depth = false := by
      simp [Token.endsLine]
      omega
    have hnesting : (Token.delimiter .semicolon).nesting = 0 := rfl
    rw [List.flatMap_cons, List.cons_append, staysOpen_cons, staysOpen_append, nestingOf_cons,
      nestingOf_append, hnesting, hitem.nesting, Int.add_zero, Int.add_zero]
    exact ⟨⟨hsemicolon, hitem.staysOpen depth (by omega), ih.1⟩, by rw [ih.2]; rfl⟩

theorem StatementsTree.tokens_closed (s : StatementsTree) : Closed s.tokens := by
  cases s with
  | block first more =>
    have hfirst := optionTokens_closed first
    apply Closed.enclosed rfl rfl
    · intro depth hdepth
      rw [staysOpen_append, hfirst.nesting, Int.add_zero]
      exact ⟨hfirst.staysOpen depth (by omega), (blockItems_open more depth hdepth).1⟩
    · rw [nestingOf_append, hfirst.nesting, (blockItems_open more 1 (by decide)).2]
      rfl
  | one e => exact e.tokens_closed
  | nothing => exact .nil

/-- The tokens of a line are a part of a line. -/
theorem LineTree.tokens_closed (t : LineTree) : Closed t.tokens := by
  have hname : Closed (optionTokens (fun name => [NameTree.token name]) t.name) := by
    rcases t.name with _ | (_ | _ | _)
    · exact .nil
    all_goals exact .cons rfl nofun .nil
  exact t.condition.tokens_closed.append
    (.cons rfl nofun (hname.append (.cons rfl nofun t.statements.tokens_closed)))

/-! ### Segments -/

theorem lineTokens_append {depth : Int} {xs after : List Located} {d : Located}
    (hopen : StaysOpen depth (xs.map (·.token)))
    (hd : d.token.endsLine (depth + nestingOf (xs.map (·.token))) = true) :
    lineTokens depth (xs ++ d :: after) = (xs, some d, after) := by
  induction xs generalizing depth with
  | nil =>
    rw [List.map_nil, nestingOf_nil, Int.add_zero] at hd
    simp [lineTokens, hd]
  | cons x xs ih =>
    rw [List.map_cons, staysOpen_cons] at hopen
    rw [List.map_cons, nestingOf_cons, ← Int.add_assoc] at hd
    simp [lineTokens, hopen.1, ih hopen.2 hd]

/-- A cut loses no token. -/
theorem lineTokens_join (depth : Int) (ws : List Located) :
    (lineTokens depth ws).1 ++ (lineTokens depth ws).2.1.toList ++ (lineTokens depth ws).2.2
      = ws := by
  induction ws generalizing depth with
  | nil => rfl
  | cons w ws ih =>
    rw [lineTokens]
    split
    · rfl
    · exact congrArg (List.cons w) (ih (depth + w.token.nesting))

theorem lineTokens_terminator {depth : Int} {ws : List Located} {d : Located}
    (h : (lineTokens depth ws).2.1 = some d) : d.token = .delimiter .semicolon := by
  induction ws generalizing depth with
  | nil => cases h
  | cons w ws ih =>
    rw [lineTokens] at h
    split at h
    next hends =>
      cases h
      simp only [Token.endsLine, Bool.and_eq_true, beq_iff_eq] at hends
      exact hends.1
    next => exact ih h

/-! ### Lines of a listing -/

theorem eq_ok_of_toOption {ε α : Type} {x : Except ε α} {a : α} (h : x.toOption = some a) :
    x = .ok a := by
  cases x with
  | error e => cases h
  | ok b => exact congrArg Except.ok (Option.some.inj h)

/-- A segment is read as a line exactly if it is terminated and its tokens derive the line. -/
theorem readLine_iff (segment : Segment) (l : Line) :
    readLine segment = .ok l ↔
      segment.terminated = true ∧ ∃ t : LineTree, t.tokens = segment.tokens ∧ t.line = l := by
  rw [← Grammar.line_iff, readLine]
  cases hterminated : segment.terminated with
  | false => simp
  | true =>
    cases hline : Grammar.line ⟨0, segment.tokens⟩ with
    | error e => simp
    | ok result =>
      obtain ⟨l', c⟩ := result
      simp

theorem segmentsOfWords_eq {ws : List Located} (h : ws ≠ []) :
    ∃ segment, segmentsOfWords ws = segment :: segmentsOfWords (lineTokens 0 ws).2.2 ∧
      segment.tokens = (lineTokens 0 ws).1.map (·.token) ∧
      segment.terminated = (lineTokens 0 ws).2.1.isSome := by
  cases ws with
  | nil => exact absurd rfl h
  | cons w ws =>
    rw [segmentsOfWords]
    exact ⟨_, rfl, rfl, rfl⟩

theorem readSegments_cons_empty {source : String} {segment : Segment} (h : segment.tokens = [])
    (more : List Segment) : readSegments source (segment :: more) = readSegments source more := by
  rw [readSegments, h]
  rfl

theorem readSegments_cons_iff {source : String} {segment : Segment} (h : segment.tokens ≠ [])
    (more : List Segment) (ls : Listing) :
    readSegments source (segment :: more) = .ok ls ↔
      ∃ l ls', readLine segment = .ok l ∧ readSegments source more = .ok ls' ∧ l :: ls' = ls := by
  have hempty : segment.tokens.isEmpty = false := by simpa using h
  rw [readSegments, hempty]
  cases readLine segment with
  | error e => simp
  | ok l => cases readSegments source more <;> simp [Except.map]

/-- What a derivation derives is read as its lines. -/
theorem readSegments_tokens (source : String) {s : ScriptTree} {ws : List Located}
    (h : ws.map (·.token) = s.tokens) :
    readSegments source (segmentsOfWords ws) = .ok s.lines := by
  induction s generalizing ws with
  | nil =>
    cases ws with
    | nil => rw [segmentsOfWords]; rfl
    | cons w ws => cases h
  | cons item s ih =>
    rw [ScriptTree.tokens_cons, List.map_eq_append_iff] at h
    obtain ⟨xs, ys, rfl, hxs, hys⟩ := h
    obtain ⟨d, after, rfl, hd, hafter⟩ := List.map_eq_cons_iff.mp hys
    have hclosed : Closed (xs.map (·.token)) := by
      rw [hxs]
      cases item with
      | none => exact .nil
      | some t => exact t.tokens_closed
    have hends : d.token.endsLine (0 + nestingOf (xs.map (·.token))) = true := by
      rw [hclosed.nesting, hd]
      rfl
    have hcut : lineTokens 0 (xs ++ d :: after) = (xs, some d, after) :=
      lineTokens_append (hclosed.staysOpen 0 (by decide)) hends
    have hne : xs ++ d :: after ≠ [] := by simp
    obtain ⟨segment, hsegments, htokens, hterminated⟩ := segmentsOfWords_eq hne
    rw [hcut] at hsegments htokens hterminated
    rw [hsegments]
    cases item with
    | none =>
      rw [readSegments_cons_empty (htokens.trans hxs)]
      exact ih hafter
    | some t =>
      have htokens' : segment.tokens = t.tokens := htokens.trans hxs
      rw [readSegments_cons_iff (htokens' ▸ t.tokens_ne_nil)]
      have hline := (readLine_iff segment t.line).mpr ⟨hterminated, t, htokens'.symm, rfl⟩
      exact ⟨t.line, ScriptTree.lines s, hline, ih hafter, rfl⟩

/-- What is read has a derivation. -/
theorem exists_tokens_of_readSegments (source : String) {ws : List Located} {ls : Listing}
    (h : readSegments source (segmentsOfWords ws) = .ok ls) :
    ∃ s : ScriptTree, s.tokens = ws.map (·.token) ∧ s.lines = ls := by
  induction hn : ws.length using Nat.strongRecOn generalizing ws ls with
  | ind n ih =>
    by_cases hws : ws = []
    · subst hws
      rw [segmentsOfWords] at h
      cases h
      exact ⟨[], rfl, rfl⟩
    · obtain ⟨segment, hsegments, htokens, hterminated⟩ := segmentsOfWords_eq hws
      have hjoin := lineTokens_join 0 ws
      have hshorter : (lineTokens 0 ws).2.2.length < ws.length := by
        obtain ⟨w, ws, rfl⟩ := List.exists_cons_of_ne_nil hws
        exact lineTokens_rest_length_lt 0 w ws
      have hsemicolon : ∀ d, (lineTokens 0 ws).2.1 = some d → d.token = .delimiter .semicolon :=
        fun _ => lineTokens_terminator
      rw [hsegments] at h
      generalize lineTokens 0 ws = cut at h hjoin hshorter hsemicolon htokens hterminated
      obtain ⟨line, terminator, after⟩ := cut
      simp only at h hjoin hshorter hsemicolon htokens hterminated
      by_cases hline : line = []
      · rw [readSegments_cons_empty (by rw [htokens, hline, List.map_nil])] at h
        obtain ⟨s, hs, rfl⟩ := ih after.length (hn ▸ hshorter) h rfl
        cases terminator with
        | none =>
          rw [← hjoin, hline] at hshorter
          simp at hshorter
        | some d =>
          refine ⟨none :: s, ?_, rfl⟩
          rw [ScriptTree.tokens_cons, hs, ← hjoin, hline]
          simp [optionTokens, hsemicolon d rfl]
      · have hne : segment.tokens ≠ [] := by simpa [htokens] using hline
        obtain ⟨l, ls', hl, hmore, rfl⟩ := (readSegments_cons_iff hne _ _).mp h
        obtain ⟨hsome, t, ht, rfl⟩ := (readLine_iff segment l).mp hl
        obtain ⟨s, hs, rfl⟩ := ih after.length (hn ▸ hshorter) hmore rfl
        cases terminator with
        | none => simp [hterminated] at hsome
        | some d =>
          refine ⟨some t :: s, ?_, rfl⟩
          rw [ScriptTree.tokens_cons, hs, ← hjoin, optionTokens, ht, htokens]
          simp [hsemicolon d rfl]

/-- The lines of a sequence of tokens are those of its derivation. -/
theorem readSegments_iff (source : String) (ws : List Located) (ls : Listing) :
    readSegments source (segmentsOfWords ws) = .ok ls ↔
      ∃ s : ScriptTree, s.tokens = ws.map (·.token) ∧ s.lines = ls := by
  constructor
  · exact exists_tokens_of_readSegments source
  · rintro ⟨s, hs, rfl⟩
    exact readSegments_tokens source hs.symm

/-- A text that can be scanned is read as a listing exactly if its words derive a script with these
lines, and it has at most one derivation. -/
theorem readListing_iff (source : String) (tokens : List Located)
    (h : tokens? source = .ok tokens) :
    (∀ ls, readListing source = .ok ls ↔
      ∃ s : ScriptTree, s.tokens = (words tokens).map (·.token) ∧ s.lines = ls) ∧
    ∀ s s' : ScriptTree, s.tokens = (words tokens).map (·.token) →
      s'.tokens = (words tokens).map (·.token) → s = s' := by
  constructor
  · intro ls
    rw [readListing, h]
    exact readSegments_iff source (words tokens) ls
  · intro s s' hs hs'
    exact ScriptTree.tokens_inj (hs.trans hs'.symm)

/-- An empty line, and a call on the root with a block. -/
theorem readListing_iff_block :
    ∃ tokens, tokens? "; root.run(1, x()) : : \x7b a(); \x7d;" = .ok tokens ∧
      ∃ s : ScriptTree, s.tokens = (words tokens).map (·.token) ∧
        s.lines = [⟨.call .root "run" [.value (.integer "1"), .call (.levels 0) "x" []], "",
          [.call (.levels 0) "a" []]⟩] ∧
        ∀ s' : ScriptTree, s'.tokens = (words tokens).map (·.token) → s' = s := by
  generalize hsource : "; root.run(1, x()) : : \x7b a(); \x7d;" = source
  have hsome : (tokens? source).toOption.isSome = true := by
    rw [← hsource]
    decide +kernel
  have hlisting : readListing source
      = .ok [⟨.call .root "run" [.value (.integer "1"), .call (.levels 0) "x" []], "",
          [.call (.levels 0) "a" []]⟩] := by
    apply eq_ok_of_toOption
    rw [← hsource]
    decide +kernel
  have htokens := eq_ok_of_toOption (Option.some_get hsome).symm
  obtain ⟨hread, hunique⟩ := readListing_iff source _ htokens
  obtain ⟨s, hs, hlines⟩ := (hread _).mp hlisting
  exact ⟨_, htokens, s, hs, hlines, fun s' hs' => hunique s' s hs' hs⟩

end CoachScript
