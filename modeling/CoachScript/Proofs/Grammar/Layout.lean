import CoachScript.Proofs.Grammar.Boundary
import CoachScript.Proofs.Grammar.Script

/-!
# Layout between lexemes

* `Layout`: blanks, line feeds and whole comments, in any sequence.
* `Spaced text new`: `new` is `text` with layout put in front of its lexemes and at its end.
* `Reads text ws`: the text is scanned to its end as the words `ws`. Layout in front of a text is not
  read (`Layout.reads`); behind a comment it goes on with the comment, up to the first line feed
  (`Layout.reads_remark`).
* `Respaced`: what the first text of two that are `Spaced` has in common with the second. A word ends
  where it ended before, since no layout goes on with it; **each lexeme keeps this** (`Respaced.cons`).
* **`readListing_spaced`**: layout changes neither the words of a text nor what is read from it.
-/

namespace CoachScript

open Lexeme

/-- Spaces, tabs, line feeds and comments with the line feed behind them. -/
inductive Layout : List Char → Prop
  | nil : Layout []
  | blank {c : Char} {more : List Char} (hc : c ∈ [' ', '\t', '\n']) (h : Layout more) :
      Layout (c :: more)
  | comment {remark more : List Char} (hremark : ∀ c ∈ remark, c ≠ '\n' ∧ c ≠ '\r') (h : Layout more) :
      Layout ('/' :: '/' :: remark ++ '\n' :: more)

/-- The second text is the first one with layout in front of its lexemes and at its end. -/
inductive Spaced : List Char → List Char → Prop
  | nil {layout : List Char} (h : Layout layout) : Spaced [] layout
  | cons {layout piece rest new : List Char} {token : Token} (hlayout : Layout layout)
      (hpiece : IsFirst ⟨token, piece, rest⟩) (h : Spaced rest new) :
      Spaced (piece ++ rest) (layout ++ (piece ++ new))

/-- A text that is scanned to its end is itself with no layout put in. -/
theorem spaced_self {place : Position} {text : List Char} (h : (scan place text).rest = []) :
    Spaced text text := by
  induction text using Lexeme.induction generalizing place with
  | stop text hfirst =>
    rw [scan_of_none hfirst] at h
    rw [show text = [] from h]
    exact .nil .nil
  | step text l hfirst ih =>
    rw [rest_scan_of_first place hfirst] at h
    rw [← text_append_rest hfirst]
    exact .cons .nil (isFirst_of_first hfirst) (ih h)

/-- The text is scanned to its end as the words. -/
def Reads (text : List Char) (ws : List Token) : Prop :=
  ∀ place, (scan place text).rest = [] ∧ (scan place text).words = ws

variable {text new piece rest layout : List Char} {ws : List Token}

theorem reads_nil : Reads [] [] := fun place => by
  rw [scan_of_none rfl]
  exact ⟨rfl, rfl⟩

theorem Reads.append {ts : List Token} (h : Reads rest ws) (htext : Spells text ts rest) :
    Reads (text ++ rest) (ts ++ ws) := by
  intro place
  obtain ⟨hrest, hwords⟩ := htext place
  obtain ⟨hend, hws⟩ := h (place.advance text)
  exact ⟨hrest.trans hend, by rw [hwords, hws]⟩

/-! ### Layout is not read -/

theorem Reads.blank {c : Char} (h : Reads rest ws) (hc : c ∈ [' ', '\t', '\n']) :
    Reads (c :: rest) ws := by
  simp only [List.mem_cons, List.not_mem_nil, or_false] at hc
  rcases hc with rfl | rfl | rfl
  · exact h.append (spells_space rfl)
  · exact h.append (spells_space rfl)
  · exact h.append spells_newline

theorem Reads.blanks {run : List Char} (h : Reads rest ws) (hrun : ∀ c ∈ run, isSpace c) :
    Reads (run ++ rest) ws := by
  induction run with
  | nil => exact h
  | cons c run ih =>
    have hmore := ih fun d hd => hrun d (List.mem_cons_of_mem c hd)
    exact hmore.append (spells_space (hrun c List.mem_cons_self))

/-- A comment is not read, up to the line feed or the end of the text behind it. -/
theorem Reads.comment {remark : List Char} (h : Reads rest ws)
    (hremark : ∀ c ∈ remark, isLineEnd c = false) (hrest : ∀ c ∈ rest.head?, c = '\n') :
    Reads ('/' :: '/' :: remark ++ rest) ws :=
  h.append (.of_lexeme (first?_remark hremark hrest))

/-- A comment with the line feed behind it is not read. -/
theorem Reads.commentLine {remark : List Char} (h : Reads rest ws)
    (hremark : ∀ c ∈ remark, isLineEnd c = false) : Reads ('/' :: '/' :: remark ++ '\n' :: rest) ws :=
  (h.blank (by simp)).comment hremark (by rintro c ⟨⟩; rfl)

namespace Layout

/-- **Layout in front of a text is not read.** -/
theorem reads (hlayout : Layout layout) (h : Reads rest ws) : Reads (layout ++ rest) ws := by
  induction hlayout with
  | nil => exact h
  | blank hc _ ih => exact ih.blank hc
  | comment hremark _ ih =>
    have hcomment := ih.commentLine fun c hc => isLineEnd_eq_false_iff.mpr (hremark c hc)
    rwa [← List.cons_append, ← List.append_assoc] at hcomment

/-- **Layout behind a comment goes on with it up to the first line feed, and is not read.** -/
theorem reads_behind_comment {remark : List Char} (hlayout : Layout layout) (h : Reads rest ws)
    (hremark : ∀ c ∈ remark, isLineEnd c = false) (hrest : ∀ c ∈ rest.head?, c = '\n') :
    Reads ('/' :: '/' :: remark ++ (layout ++ rest)) ws := by
  induction hlayout generalizing remark with
  | nil => exact h.comment hremark hrest
  | @blank c more hc hmore ih =>
    by_cases hfeed : c = '\n'
    · subst hfeed
      exact (hmore.reads h).commentLine hremark
    · have hc' : isLineEnd c = false := by
        refine isLineEnd_eq_false_iff.mpr ⟨hfeed, ?_⟩
        rintro rfl
        exact absurd hc (by decide)
      have hlonger : Reads ('/' :: '/' :: (remark ++ [c]) ++ (more ++ rest)) ws :=
        ih (List.forall_mem_append.mpr ⟨hremark, by simpa using hc'⟩)
      simpa using hlonger
  | @comment remark' more hremark' hmore _ =>
    have hlonger : ∀ c ∈ remark ++ '/' :: '/' :: remark', isLineEnd c = false := by
      refine List.forall_mem_append.mpr ⟨hremark, ?_⟩
      have hslash : isLineEnd '/' = false := rfl
      simpa [hslash] using fun c hc => isLineEnd_eq_false_iff.mpr (hremark' c hc)
    have hcomment := (hmore.reads h).commentLine hlonger
    simpa using hcomment

/-- Layout that is not empty begins with a character that goes on with no word. -/
theorem head_cases (h : Layout layout) :
    layout = [] ∨ ∃ c more, layout = c :: more ∧ c ∈ [' ', '\t', '\n', '/'] := by
  cases h with
  | nil => exact .inl rfl
  | blank hc => exact .inr ⟨_, _, rfl, List.mem_append_left ['/'] hc⟩
  | comment => exact .inr ⟨_, _, rfl, by simp⟩

end Layout

/-! ### Words in front of layout -/

theorem isTrivia_wordToken (word : List Char) : (wordToken word).isTrivia = false := by
  unfold wordToken
  cases Keyword.ofText? (String.ofList word) <;> rfl

/-- Every word that ends before the first text ends before the second. -/
def EndsAlike (text new : List Char) : Prop :=
  ∀ t : Token, t.isTrivia = false → t.EndsBefore text → t.EndsBefore new

theorem EndsAlike.add_layout (hlayout : Layout layout) (h : EndsAlike text new) :
    EndsAlike text (layout ++ new) := by
  intro t ht hends
  rcases hlayout.head_cases with rfl | ⟨c, more, rfl, hc⟩
  · exact h t ht hends
  · exact Token.endsBefore_layout hc ht (more ++ new)

/-- A word that ends before a lexeme does so by its first character, or because no digit is behind its
point. -/
theorem EndsAlike.add_lexeme {token : Token} (hpiece : IsFirst ⟨token, piece, rest⟩)
    (h : EndsAlike rest new) : EndsAlike (piece ++ rest) (piece ++ new) := by
  obtain ⟨c, more, rfl⟩ := List.exists_cons_of_ne_nil (text_ne_nil hpiece.first?)
  intro t ht hends
  cases t with
  | float | keyword | identifier => exact hends
  | string | operator | delimiter => trivial
  | blanks | newline | comment => cases ht
  | integer =>
    refine ⟨hends.1, ?_⟩
    by_cases hdot : c = '.'
    · subst hdot
      have hone := hpiece.first?
      rw [List.cons_append, first?_dot] at hone
      obtain ⟨-, hnil, -⟩ := Lexeme.mk.inj (Option.some.inj hone)
      cases hnil
      have hdigit := fraction?_dot.mp hends.2
      exact fraction?_dot.mpr (h (.float "") rfl hdigit)
    · refine fraction?_of_ne ?_
      rintro d ⟨⟩
      exact hdot

/-! ### Texts with more layout -/

/-- What a text and one with more layout have in common. -/
structure Respaced (text new : List Char) (ws : List Token) : Prop where
  reads : Reads text ws
  ends : EndsAlike text new
  split : ∃ layout tail, new = layout ++ tail ∧ Layout layout ∧ tail.head? = text.head? ∧ Reads tail ws

namespace Respaced

theorem reads_new (h : Respaced text new ws) : Reads new ws := by
  obtain ⟨layout, tail, rfl, hlayout, -, hreads⟩ := h.split
  exact hlayout.reads hreads

/-- A lexeme in front of a text is the same in front of one with more layout: a word ends where it ended,
blanks are not read, and neither is a comment with the layout behind it. -/
theorem reads_piece {token : Token} (hpiece : IsFirst ⟨token, piece, rest⟩)
    (hreturn : '\r' ∉ piece ++ rest) (h : Respaced rest new ws) :
    Reads (piece ++ new) ((if token.isTrivia then [] else [token]) ++ ws) := by
  obtain ⟨hends, hsettled⟩ := settled_first hpiece.first?
  have hword (ht : token.isTrivia = false) :
      Reads (piece ++ new) ((if token.isTrivia then [] else [token]) ++ ws) :=
    h.reads_new.append (.of_lexeme (hsettled new (h.ends token ht hends)))
  cases hpiece with
  | blanks hne hrun hrest => exact h.reads_new.blanks hrun
  | newline => exact h.reads_new.blank (by simp)
  | @comment remark _ hremark hrest hcomment =>
    obtain ⟨layout, tail, rfl, hlayout, hhead, hreads⟩ := h.split
    refine hlayout.reads_behind_comment hreads hremark fun c hc => ?_
    rw [hhead] at hc
    have hother : c ≠ '\r' := by
      rintro rfl
      exact hreturn (List.mem_append_right _ (List.mem_of_head? hc))
    simpa [isLineEnd, hother] using hrest c hc
  | string | integer | float | dot | delimiter => exact hword rfl
  | word => exact hword (isTrivia_wordToken _)

theorem nil (hlayout : Layout layout) : Respaced [] layout [] where
  reads := reads_nil
  ends := by
    have hends : EndsAlike [] ([] : List Char) := fun _ _ => id
    simpa using hends.add_layout hlayout
  split := ⟨layout, [], (List.append_nil _).symm, hlayout, rfl, reads_nil⟩

/-- **Layout and a lexeme in front keep what the texts have in common.** -/
theorem cons {token : Token} (hlayout : Layout layout) (hpiece : IsFirst ⟨token, piece, rest⟩)
    (hreturn : '\r' ∉ piece ++ rest) (h : Respaced rest new ws) :
    Respaced (piece ++ rest) (layout ++ (piece ++ new))
      ((if token.isTrivia then [] else [token]) ++ ws) where
  reads := h.reads.append (.of_lexeme hpiece.first?)
  ends := (h.ends.add_lexeme hpiece).add_layout hlayout
  split := by
    refine ⟨layout, piece ++ new, rfl, hlayout, ?_, h.reads_piece hpiece hreturn⟩
    obtain ⟨c, more, rfl⟩ := List.exists_cons_of_ne_nil (text_ne_nil hpiece.first?)
    rfl

end Respaced

/-- **More layout leaves a text readable, as the same words.** -/
theorem exists_respaced (h : Spaced text new) (hreturn : '\r' ∉ text) : ∃ ws, Respaced text new ws := by
  induction h with
  | nil hlayout => exact ⟨[], .nil hlayout⟩
  | cons hlayout hpiece _ ih =>
    obtain ⟨ws, hws⟩ := ih fun hmem => hreturn (List.mem_append_right _ hmem)
    exact ⟨_, hws.cons hlayout hpiece hreturn⟩

/-! ### What is read from words -/

/-- What is read of a segment: its tokens, and whether a semicolon ends it. -/
def Segment.content (s : Segment) : List Token × Bool := (s.tokens, s.terminated)

theorem lineTokens_congr {ws us : List Located} (h : ws.map (·.token) = us.map (·.token))
    (depth : Int) :
    (lineTokens depth ws).1.map (·.token) = (lineTokens depth us).1.map (·.token) ∧
      (lineTokens depth ws).2.1.isSome = (lineTokens depth us).2.1.isSome ∧
      (lineTokens depth ws).2.2.map (·.token) = (lineTokens depth us).2.2.map (·.token) := by
  induction ws generalizing us depth with
  | nil =>
    obtain rfl := List.map_eq_nil_iff.mp h.symm
    exact ⟨rfl, rfl, rfl⟩
  | cons w ws ih =>
    obtain ⟨u, us, rfl, htoken, hmore⟩ := List.map_eq_cons_iff.mp h.symm
    rw [lineTokens, lineTokens, htoken]
    split
    · exact ⟨rfl, rfl, hmore.symm⟩
    · obtain ⟨hline, hterminator, hrest⟩ := ih hmore.symm (depth + w.token.nesting)
      refine ⟨?_, hterminator, hrest⟩
      rw [List.map_cons, List.map_cons, hline, htoken]

/-- Sequences with the same words have segments with the same contents. -/
theorem segmentsOfWords_congr {ws us : List Located} (h : ws.map (·.token) = us.map (·.token)) :
    (segmentsOfWords ws).map Segment.content = (segmentsOfWords us).map Segment.content := by
  fun_induction segmentsOfWords ws generalizing us with
  | case1 =>
    obtain rfl := List.map_eq_nil_iff.mp h.symm
    rw [segmentsOfWords]
  | case2 w ws cut =>
    rename_i ih
    obtain ⟨hline, hterminator, hrest⟩ := lineTokens_congr h 0
    obtain ⟨u, us, rfl, -, -⟩ := List.map_eq_cons_iff.mp h.symm
    have hfirst : (segmentOf w cut.1 cut.2.1).content =
        (segmentOf u (lineTokens 0 (u :: us)).1 (lineTokens 0 (u :: us)).2.1).content :=
      Prod.ext hline hterminator
    rw [segmentsOfWords, List.map_cons, List.map_cons, ← hfirst, ← ih hrest]

theorem readLine_congr {s s' : Segment} (h : s.content = s'.content) : readLine s = readLine s' := by
  obtain ⟨htokens, hterminated⟩ := Prod.mk.inj h
  rw [readLine, readLine, htokens, hterminated]

/-- Segments with the same contents are read as the same lines, or refused for the same cause. -/
theorem readSegments_congr {ss ss' : List Segment}
    (h : ss.map Segment.content = ss'.map Segment.content) (source changed : String) :
    (readSegments changed ss').mapError (·.cause) = (readSegments source ss).mapError (·.cause) := by
  induction ss generalizing ss' with
  | nil =>
    obtain rfl := List.map_eq_nil_iff.mp h.symm
    rfl
  | cons s ss ih =>
    obtain ⟨s', ss', rfl, hs, hmore⟩ := List.map_eq_cons_iff.mp h.symm
    have htokens : s'.tokens = s.tokens := congrArg Prod.fst hs
    have hsame := ih hmore.symm
    have hmap (x : Except SyntaxFault Listing) (line : Line) :
        (x.map (line :: ·)).mapError (·.cause) = (x.mapError (·.cause)).map (line :: ·) := by
      cases x <;> rfl
    rw [readSegments, readSegments, readLine_congr hs, htokens]
    split
    · exact hsame
    · cases readLine s with
      | error cause => rfl
      | ok line =>
        dsimp only
        rw [hmap, hmap, hsame]

/-- **Layout changes neither the words of a text nor what is read from it.** -/
theorem readListing_spaced {source : String} {ts : List Located} (hreturn : '\r' ∉ source.toList)
    (hts : tokens? source = .ok ts) :
    Spaced source.toList source.toList ∧ ∀ changed : String, Spaced source.toList changed.toList →
      (∃ ts', tokens? changed = .ok ts' ∧ (words ts').map (·.token) = (words ts).map (·.token)) ∧
      (readListing changed).mapError (·.cause) = (readListing source).mapError (·.cause) := by
  have hscan := tokens?_eq_ok_iff.mp hts
  refine ⟨spaced_self hscan.1, fun changed h => ?_⟩
  obtain ⟨ws, hws⟩ := exists_respaced h hreturn
  obtain ⟨-, hwords⟩ := hws.reads .start
  obtain ⟨hrest', hwords'⟩ := hws.reads_new .start
  have hts' := tokens?_eq_ok_iff.mpr ⟨hrest', rfl⟩
  have hsame := hwords'.trans hwords.symm
  rw [Scan.words, Scan.words, hscan.2] at hsame
  refine ⟨⟨_, hts', hsame⟩, ?_⟩
  rw [readListing, readListing, hts, hts']
  exact readSegments_congr (segmentsOfWords_congr hsame.symm) source changed

/-- A tab behind a number, a comment behind a comment, and a line feed at the end. -/
theorem readListing_spaced_comment :
    let source := "1//c\n::;"
    let changed := "1\t//c//y\n\n::;\n"
    '\r' ∉ source.toList ∧ (∃ ts, tokens? source = .ok ts) ∧ Spaced source.toList changed.toList ∧
      (readListing source).toOption.isSome ∧
      (readListing changed).mapError (·.cause) = (readListing source).mapError (·.cause) := by
  intro source changed
  have hsource : source.toList = ['1'] ++ ('/' :: '/' :: ['c'] ++ ['\n', ':', ':', ';']) := by
    decide +kernel
  have hchanged : changed.toList =
      [] ++ (['1'] ++ (['\t'] ++ ('/' :: '/' :: ['c'] ++
        ('/' :: '/' :: ['y'] ++ '\n' :: [] ++ ['\n', ':', ':', ';', '\n'])))) := by decide +kernel
  have hspaced : Spaced source.toList changed.toList := by
    have hend : Spaced [':', ':', ';'] [':', ':', ';', '\n'] :=
      .cons .nil (.delimiter .colon) (.cons .nil (.delimiter .colon)
        (.cons .nil (.delimiter .semicolon) (.nil (.blank (by decide) .nil))))
    rw [hsource, hchanged]
    refine .cons .nil (@IsFirst.integer [] ['1'] _ (.inl rfl) rfl (by rintro c ⟨⟩; decide) rfl) ?_
    refine .cons (.blank (by decide) .nil) (.comment (by simp [isLineEnd]) (by rintro c ⟨⟩; rfl) rfl) ?_
    exact .cons (.comment (by simp) .nil) .newline hend
  have hreturn : '\r' ∉ source.toList := by decide +kernel
  have hts := tokens?_eq_ok_iff.mpr ⟨show (scan .start source.toList).rest = [] by decide +kernel, rfl⟩
  have hread := ((readListing_spaced hreturn hts).2 changed hspaced).2
  exact ⟨hreturn, ⟨_, hts⟩, hspaced, by decide +kernel, hread⟩

end CoachScript
