import CoachScript.Script.Token
import CoachScript.Text.Alphabetic
import CoachScript.Text.Blank
import CoachScript.Text.Numeric

/-!
# Lexemes

A lexeme is the longest run of characters at the front of a text that makes one token:

* blanks (space, tab, carriage return), a line feed, a comment from `//` to the line's end;
* a string between double quotes with the escapes `\"`, `\\`, `\n`, `\t`;
* an integer or a float: an optional minus sign and ASCII digits, with a point inside a float;
* the dot, a delimiter, an identifier or keyword.

`Lexeme.first?` finds it. **Nothing is lost**: its text and what is left make up the input
(`Lexeme.text_append_rest`), and its text is not empty (`Lexeme.text_ne_nil`).
-/

namespace CoachScript

/-- A token at the front of a text: its characters, and the text after it. -/
structure Lexeme where
  token : Token
  text : List Char
  rest : List Char

namespace Lexeme

/-- The characters that separate words without ending the line. -/
def isSpace (c : Char) : Bool := c == ' ' || c == '\t' || c == '\r'

/-- The characters that begin an identifier. -/
def isNameStart (c : Char) : Bool := isAlphabetic c || c == '_'

/-- The characters that continue an identifier. -/
def isNameRest (c : Char) : Bool := isAlphabetic c || isNumeric c || c == '_'

/-- A comment runs to the end of its line. -/
def isLineEnd (c : Char) : Bool := c == '\n' || c == '\r'

/-- A run of spaces, tabs and carriage returns. -/
def blanks? (input : List Char) : Option Lexeme :=
  match input.takeWhile isSpace with
  | [] => none
  | run => some ⟨.blanks (String.ofList run), run, input.dropWhile isSpace⟩

/-- A line feed. -/
def newline? : List Char → Option Lexeme
  | '\n' :: rest => some ⟨.newline, ['\n'], rest⟩
  | _ => none

/-- The text of a comment may be followed by the end of the text, a line feed, or a carriage return
with its line feed. -/
def endsComment : List Char → Bool
  | '\r' :: '\n' :: _ => true
  | '\r' :: _ => false
  | _ => true

/-- Two slashes and the rest of the line. -/
def comment? : List Char → Option Lexeme
  | '/' :: '/' :: rest =>
    let remark := rest.takeWhile (!isLineEnd ·)
    let after := rest.dropWhile (!isLineEnd ·)
    if endsComment after then
      some ⟨.comment (String.ofList (trim remark)), '/' :: '/' :: remark, after⟩
    else none
  | _ => none

/-- The character that an escape in a string literal stands for. -/
def escaped? : Char → Option Char
  | '"' => some '"'
  | '\\' => some '\\'
  | 'n' => some '\n'
  | 't' => some '\t'
  | _ => none

/-- The inside of a string literal up to its closing quote: the text it stands for, its characters
with the quote, and the text after it. -/
def stringBody? : List Char → Option (List Char × List Char × List Char)
  | [] => none
  | '"' :: rest => some ([], ['"'], rest)
  | ['\\'] => none
  | '\\' :: c :: rest => do
    let meant ← escaped? c
    let (value, text, rest) ← stringBody? rest
    pure (meant :: value, '\\' :: c :: text, rest)
  | c :: rest => do
    let (value, text, rest) ← stringBody? rest
    pure (c :: value, c :: text, rest)

/-- A string literal. -/
def string? : List Char → Option Lexeme
  | '"' :: rest => do
    let (value, text, rest) ← stringBody? rest
    pure ⟨.string (String.ofList value), '"' :: text, rest⟩
  | _ => none

/-- The point and the digits after it, if both are there. -/
def fraction? : List Char → Option (List Char × List Char)
  | '.' :: rest =>
    match rest.takeWhile isAsciiDigit with
    | [] => none
    | digits => some ('.' :: digits, rest.dropWhile isAsciiDigit)
  | _ => none

/-- A number without its sign: an integer, or a float where a point and a digit follow. -/
def unsigned? (sign input : List Char) : Option Lexeme :=
  match input.takeWhile isAsciiDigit with
  | [] => none
  | digits =>
    let after := input.dropWhile isAsciiDigit
    match fraction? after with
    | some (fraction, rest) =>
      let text := sign ++ digits ++ fraction
      some ⟨.float (String.ofList text), text, rest⟩
    | none => some ⟨.integer (String.ofList (sign ++ digits)), sign ++ digits, after⟩

/-- A number with an optional minus sign. -/
def number? : List Char → Option Lexeme
  | '-' :: rest => unsigned? ['-'] rest
  | input => unsigned? [] input

/-- The operator or delimiter that one character is. -/
def mark? : List Char → Option Lexeme
  | [] => none
  | c :: rest =>
    if c = '.' then some ⟨.operator .dot, [c], rest⟩
    else (Delimiter.ofChar? c).map fun mark => ⟨.delimiter mark, [c], rest⟩

/-- The token of a word: a keyword or an identifier. -/
def wordToken (word : List Char) : Token :=
  match Keyword.ofText? (String.ofList word) with
  | some keyword => .keyword keyword
  | none => .identifier (String.ofList word)

/-- A keyword or an identifier. -/
def word? : List Char → Option Lexeme
  | [] => none
  | c :: rest =>
    if isNameStart c then
      let word := c :: rest.takeWhile isNameRest
      some ⟨wordToken word, word, rest.dropWhile isNameRest⟩
    else none

/-- The lexeme at the front of a text. -/
def first? (input : List Char) : Option Lexeme :=
  blanks? input <|> newline? input <|> comment? input <|> string? input <|> number? input <|>
    mark? input <|> word? input

/-! ### A lexeme is a front part of its input -/

/-- The lexeme's characters are not empty and make up the input together with what is left. -/
def Splits (input : List Char) (l : Lexeme) : Prop := l.text ≠ [] ∧ l.text ++ l.rest = input

theorem splits_blanks {input : List Char} {l : Lexeme} (h : blanks? input = some l) :
    Splits input l := by
  unfold blanks? at h
  split at h
  · cases h
  · next hrun =>
    cases h
    exact ⟨hrun, List.takeWhile_append_dropWhile⟩

theorem splits_newline {input : List Char} {l : Lexeme} (h : newline? input = some l) :
    Splits input l := by
  unfold newline? at h
  split at h
  · cases h; simp [Splits]
  · cases h

theorem splits_comment {input : List Char} {l : Lexeme} (h : comment? input = some l) :
    Splits input l := by
  unfold comment? at h
  split at h
  · simp only at h
    split at h
    · cases h; simp [Splits, List.takeWhile_append_dropWhile]
    · cases h
  · cases h

theorem stringBody_append {input value text rest : List Char}
    (h : stringBody? input = some (value, text, rest)) : text ++ rest = input := by
  fun_induction stringBody? input generalizing value text rest with
  | case1 => cases h
  | case2 tail => cases h; rfl
  | case3 => cases h
  | case4 c tail ih =>
    simp only [Option.bind_eq_bind, Option.bind_eq_some_iff, Option.pure_def, Option.some.injEq,
      Prod.mk.injEq] at h
    obtain ⟨_, _, ⟨_, _, _⟩, hbody, _, rfl, rfl⟩ := h
    simp [ih hbody]
  | case5 c tail _ _ _ ih =>
    simp only [Option.bind_eq_bind, Option.bind_eq_some_iff, Option.pure_def, Option.some.injEq,
      Prod.mk.injEq] at h
    obtain ⟨⟨_, _, _⟩, hbody, _, rfl, rfl⟩ := h
    simp [ih hbody]

theorem splits_string {input : List Char} {l : Lexeme} (h : string? input = some l) :
    Splits input l := by
  unfold string? at h
  split at h
  · simp only [Option.bind_eq_bind, Option.bind_eq_some_iff, Option.pure_def,
      Option.some.injEq] at h
    obtain ⟨⟨_, _, _⟩, hbody, rfl⟩ := h
    simp [Splits, stringBody_append hbody]
  · cases h

theorem fraction_append {input fraction rest : List Char}
    (h : fraction? input = some (fraction, rest)) : fraction ++ rest = input := by
  unfold fraction? at h
  split at h
  · split at h
    · cases h
    · cases h; simp [List.takeWhile_append_dropWhile]
  · cases h

theorem splits_unsigned {sign input : List Char} {l : Lexeme} (h : unsigned? sign input = some l) :
    Splits (sign ++ input) l := by
  unfold unsigned? at h
  split at h
  · cases h
  · next hdigits =>
    have hinput : input.takeWhile isAsciiDigit ++ input.dropWhile isAsciiDigit = input :=
      List.takeWhile_append_dropWhile
    simp only at h
    split at h
    · next hfraction =>
      cases h
      refine ⟨fun hnil => hdigits ?_, ?_⟩
      · exact (List.append_eq_nil_iff.1 (List.append_eq_nil_iff.1 hnil).1).2
      · rw [List.append_assoc, fraction_append hfraction, List.append_assoc, hinput]
    · cases h
      exact ⟨fun hnil => hdigits (List.append_eq_nil_iff.1 hnil).2, by
        rw [List.append_assoc, hinput]⟩

theorem splits_number {input : List Char} {l : Lexeme} (h : number? input = some l) :
    Splits input l := by
  unfold number? at h
  split at h
  · exact splits_unsigned h
  · exact splits_unsigned h

theorem splits_mark {input : List Char} {l : Lexeme} (h : mark? input = some l) :
    Splits input l := by
  unfold mark? at h
  split at h
  · cases h
  · split at h
    · cases h; simp [Splits]
    · obtain ⟨mark, _, rfl⟩ := Option.map_eq_some_iff.1 h
      simp [Splits]

theorem splits_word {input : List Char} {l : Lexeme} (h : word? input = some l) :
    Splits input l := by
  unfold word? at h
  split at h
  · cases h
  · split at h
    · cases h; simp [Splits, List.takeWhile_append_dropWhile]
    · cases h

/-- **Nothing is lost**: the lexeme is a front part of its input, and not empty. -/
theorem splits_first {input : List Char} {l : Lexeme} (h : first? input = some l) :
    Splits input l := by
  simp only [first?, Option.orElse_eq_orElse, Option.orElse_eq_or, Option.or_eq_some_iff] at h
  rcases h with h | ⟨_, h | ⟨_, h | ⟨_, h | ⟨_, h | ⟨_, h | ⟨_, h⟩⟩⟩⟩⟩⟩
  · exact splits_blanks h
  · exact splits_newline h
  · exact splits_comment h
  · exact splits_string h
  · exact splits_number h
  · exact splits_mark h
  · exact splits_word h

theorem text_append_rest {input : List Char} {l : Lexeme} (h : first? input = some l) :
    l.text ++ l.rest = input := (splits_first h).2

theorem text_ne_nil {input : List Char} {l : Lexeme} (h : first? input = some l) :
    l.text ≠ [] := (splits_first h).1

theorem length_rest_lt {input : List Char} {l : Lexeme} (h : first? input = some l) :
    l.rest.length < input.length := by
  have hne := List.length_pos_iff.2 (text_ne_nil h)
  have := congrArg List.length (text_append_rest h)
  simp only [List.length_append] at this
  omega

end Lexeme

end CoachScript
