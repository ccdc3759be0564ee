import CoachScript.Proofs.Grammar.Kinds

/-!
# Where lexemes end

A lexeme is as long as it can be, so what it is depends on the text behind it, but only on whether
that goes on with it.

* `Token.EndsBefore`: a text does not go on with the lexeme of a token.
* **`Lexeme.settled_first`**: a lexeme ends before what is left of its input, and stays what it is in
  front of every other text that it ends before.
* `Token.EndsBefore.of_append`: so does the front part of that text, unless the other part begins with a line
  feed.
* `Seals`: in front of such a text every lexeme ends where it ended before. The empty text seals, and
  so does a line feed with whatever comes behind it.
* **`spells_of_scan`**: a text that can be scanned to its end is scanned as the same words in front of
  a text that seals it.
-/

namespace CoachScript

open Lexeme in
/-- The text does not go on with the lexeme of the token. -/
def Token.EndsBefore (rest : List Char) : Token → Prop
  | .blanks _ => ∀ c ∈ rest.head?, isSpace c = false
  | .comment _ => (∀ c ∈ rest.head?, isLineEnd c) ∧ endsComment rest
  | .integer _ => (∀ c ∈ rest.head?, isAsciiDigit c = false) ∧ fraction? rest = none
  | .float _ => ∀ c ∈ rest.head?, isAsciiDigit c = false
  | .keyword _ | .identifier _ => ∀ c ∈ rest.head?, isNameRest c = false
  | .newline | .string _ | .operator _ | .delimiter _ => True

namespace Lexeme

variable {text : List Char} {l : Lexeme}

/-- The lexeme ends before what is left, and is the same in front of every text that it ends before. -/
def Settled (l : Lexeme) : Prop :=
  l.token.EndsBefore l.rest ∧
    ∀ rest, l.token.EndsBefore rest → first? (l.text ++ rest) = some { l with rest }

theorem endsBefore_wordToken {word rest : List Char} :
    (wordToken word).EndsBefore rest ↔ ∀ c ∈ rest.head?, isNameRest c = false := by
  unfold wordToken
  cases Keyword.ofText? (String.ofList word) <;> rfl

/-- **A lexeme ends before what is left, and depends on nothing else behind it.** -/
theorem settled_first (h : first? text = some l) : l.Settled := by
  cases isFirst_of_first h with
  | blanks hne hrun hrest => exact ⟨hrest, fun _ hrest => (IsFirst.blanks hne hrun hrest).first?⟩
  | newline => exact ⟨trivial, fun _ _ => IsFirst.newline.first?⟩
  | comment hremark hrest hends =>
    exact ⟨⟨hrest, hends⟩, fun _ hrest => (IsFirst.comment hremark hrest.1 hrest.2).first?⟩
  | string hinside => exact ⟨trivial, fun _ _ => (IsFirst.string hinside).first?⟩
  | integer hsign hdigits hrest hfraction =>
    exact ⟨⟨hrest, hfraction⟩, fun _ hrest => (IsFirst.integer hsign hdigits hrest.1 hrest.2).first?⟩
  | float hsign hwhole hfraction hrest =>
    exact ⟨hrest, fun _ hrest => (IsFirst.float hsign hwhole hfraction hrest).first?⟩
  | word hc htext hrest =>
    refine ⟨endsBefore_wordToken.mpr hrest, fun _ hrest => ?_⟩
    exact (IsFirst.word hc htext (endsBefore_wordToken.mp hrest)).first?
  | dot => exact ⟨trivial, fun _ _ => IsFirst.dot.first?⟩
  | delimiter d => exact ⟨trivial, fun _ _ => (IsFirst.delimiter d).first?⟩

end Lexeme

/-! ### The front part of a text -/

theorem Token.endsBefore_nil (t : Token) : t.EndsBefore [] := by
  cases t with
  | comment | integer => exact ⟨nofun, rfl⟩
  | blanks | float | keyword | identifier => exact nofun
  | newline | string | operator | delimiter => trivial

section Front

variable {front back : List Char} (hback : ∀ c ∈ back.head?, c ≠ '\n')

include hback in
/-- A line feed that ends a comment with the carriage return before it is not cut off. -/
theorem Lexeme.endsComment_front (h : endsComment (front ++ back)) : endsComment front := by
  cases front with
  | nil => rfl
  | cons c front =>
    by_cases hc : c = '\r'
    · subst hc
      cases front with
      | nil =>
        cases back with
        | nil => exact h
        | cons d back => simp [endsComment, hback d rfl] at h
      | cons d front =>
        by_cases hd : d = '\n'
        · subst hd
          rfl
        · simp [endsComment, hd] at h
    · simp [endsComment, hc]

theorem Lexeme.fraction?_front (h : fraction? (front ++ back) = none) : fraction? front = none := by
  cases front with
  | nil => rfl
  | cons c front =>
    by_cases hdot : c = '.'
    · subst hdot
      have hdigit := fraction?_dot.mp h
      refine fraction?_dot.mpr ?_
      cases front with
      | nil => exact nofun
      | cons d front => exact hdigit
    · exact fraction?_of_ne (by rintro d ⟨⟩; exact hdot)

include hback in
/-- **A lexeme ends before the front part of a text that it ends before**, unless the other part begins with a
line feed. -/
theorem Token.EndsBefore.of_append {t : Token} (h : t.EndsBefore (front ++ back)) : t.EndsBefore front := by
  cases front with
  | nil => exact t.endsBefore_nil
  | cons c front =>
    -- The next character is the same. Only a carriage return and a point are judged by more of them.
    cases t with
    | blanks | float | keyword | identifier => exact h
    | newline | string | operator | delimiter => trivial
    | comment => exact ⟨h.1, Lexeme.endsComment_front hback h.2⟩
    | integer => exact ⟨h.1, Lexeme.fraction?_front h.2⟩

end Front

/-! ### Texts behind which nothing changes -/

/-- In front of the text, every lexeme ends where it ended before. -/
def Seals (more : List Char) : Prop :=
  ∀ (t : Token) (rest : List Char), t.EndsBefore rest → t.EndsBefore (rest ++ more)

theorem seals_nil : Seals [] := by
  intro t rest h
  rwa [List.append_nil]

/-- Every word ends before a character that begins layout. -/
theorem Token.endsBefore_layout {c : Char} (hc : c ∈ [' ', '\t', '\n', '/']) {t : Token}
    (ht : t.isTrivia = false) (more : List Char) : t.EndsBefore (c :: more) := by
  have hall : [' ', '\t', '\n', '/'].all fun c =>
      !isAsciiDigit c && !Lexeme.isNameRest c && c != '.' := by decide
  have hnone := List.all_eq_true.mp hall c hc
  simp only [Bool.and_eq_true, Bool.not_eq_true', bne_iff_ne] at hnone
  obtain ⟨⟨hdigit, hname⟩, hdot⟩ := hnone
  have hdigits : ∀ d ∈ (c :: more).head?, isAsciiDigit d = false := by
    rintro d ⟨⟩
    exact hdigit
  have hnames : ∀ d ∈ (c :: more).head?, Lexeme.isNameRest d = false := by
    rintro d ⟨⟩
    exact hname
  cases t with
  | integer => exact ⟨hdigits, Lexeme.fraction?_of_ne (by rintro d ⟨⟩; exact hdot)⟩
  | float => exact hdigits
  | keyword | identifier => exact hnames
  | string | operator | delimiter => trivial
  | blanks | newline | comment => cases ht

theorem Token.endsBefore_newline (t : Token) (more : List Char) : t.EndsBefore ('\n' :: more) := by
  have hspace : ∀ c ∈ ('\n' :: more).head?, Lexeme.isSpace c = false := by rintro c ⟨⟩; rfl
  have hline : ∀ c ∈ ('\n' :: more).head?, Lexeme.isLineEnd c := by rintro c ⟨⟩; rfl
  cases ht : t.isTrivia with
  | false => exact endsBefore_layout (by decide) ht more
  | true =>
    cases t with
    | blanks => exact hspace
    | newline => trivial
    | comment => exact ⟨hline, rfl⟩
    | keyword | identifier | integer | float | string | operator | delimiter => cases ht

theorem Lexeme.endsComment_newline {rest : List Char} (h : endsComment rest) (more : List Char) :
    endsComment (rest ++ '\n' :: more) := by
  unfold endsComment at h
  split at h
  · rfl
  · cases h
  next hfeed hreturn =>
    cases rest with
    | nil => rfl
    | cons c rest =>
      have hc : c ≠ '\r' := fun hc => hreturn rest (by rw [hc])
      simp [endsComment, hc]

theorem Lexeme.fraction?_newline {rest : List Char} (h : fraction? rest = none) (more : List Char) :
    fraction? (rest ++ '\n' :: more) = none := by
  cases rest with
  | nil => exact fraction?_of_ne (by rintro d ⟨⟩; decide)
  | cons c rest =>
    by_cases hdot : c = '.'
    · subst hdot
      have hdigit := fraction?_dot.mp h
      refine fraction?_dot.mpr ?_
      cases rest with
      | nil =>
        rintro d ⟨⟩
        decide
      | cons d rest => exact hdigit
    · exact fraction?_of_ne (by rintro d ⟨⟩; exact hdot)

/-- **A line feed seals**, whatever comes behind it. -/
theorem seals_newline (more : List Char) : Seals ('\n' :: more) := by
  intro t rest h
  cases rest with
  | nil => exact t.endsBefore_newline more
  | cons c rest =>
    -- The next character is the same. Only a carriage return and a point are judged by more of them.
    cases t with
    | blanks | float | keyword | identifier => exact h
    | newline | string | operator | delimiter => trivial
    | comment => exact ⟨h.1, Lexeme.endsComment_newline h.2 more⟩
    | integer => exact ⟨h.1, Lexeme.fraction?_newline h.2 more⟩

/-! ### Scanning in front of a text -/

theorem spells_newline {rest : List Char} : Spells ['\n'] [] rest := by
  have hfirst : Lexeme.first? (['\n'] ++ rest) = some ⟨.newline, ['\n'], rest⟩ := rfl
  exact .of_lexeme hfirst

/-- **A text that can be scanned to its end is scanned as the same words in front of a text that seals
it.** -/
theorem spells_of_scan {more : List Char} (hmore : Seals more) (place : Position) (text : List Char)
    (h : (scan place text).rest = []) : Spells text (scan place text).words more := by
  induction text using Lexeme.induction generalizing place with
  | stop text hfirst =>
    rw [scan_of_none hfirst] at h ⊢
    cases h
    exact .nil
  | step text l hfirst ih =>
    rw [rest_scan_of_first place hfirst] at h
    obtain ⟨hends, hsame⟩ := Lexeme.settled_first hfirst
    have hlexeme : Spells l.text (if l.token.isTrivia then [] else [l.token]) (l.rest ++ more) :=
      .of_lexeme (hsame _ (hmore _ _ hends))
    have hboth := hlexeme.append (ih _ h)
    rwa [Lexeme.text_append_rest hfirst, ← words_scan_of_first place hfirst] at hboth

end CoachScript
