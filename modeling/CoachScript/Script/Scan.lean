import CoachScript.Script.Lexeme
import CoachScript.Script.Position

/-!
# Scanning a text

* `Located`: a token with the place where it begins and the offset where it stops.
* `Scan`: how far a scan came: its tokens, where it stopped, and the text it could not read.
* `scan`: lexeme after lexeme, from a given position. **Every step gets shorter**, so the scan ends.
* `tokens?`: the tokens of a whole text, or the `LexError` at the first character that begins no
  lexeme. A scan that follows another begins where that one stopped, also after an error.
-/

namespace CoachScript

/-- A token and its place. -/
structure Located where
  token : Token
  first : Position
  stop : Nat
deriving DecidableEq, Repr

/-- A text that goes on with something that is no lexeme. -/
structure LexError where
  place : Position
  rest : List Char
deriving DecidableEq, Repr

namespace LexError

/-- The text shown for an error: the first twenty characters that could not be read. -/
def found (e : LexError) : String := String.ofList (e.rest.take 20)

/-- The rest of the line that could not be read, without the blanks at its end. -/
def restOfLine (e : LexError) : String :=
  String.ofList (trimEnd (e.rest.takeWhile (· != '\n')))

/-- One entry of the trace of readers that refused the text. -/
def refusal (e : LexError) (depth : Nat) (reader : String) : String :=
  String.join [toString depth, ": at line 1, in ", reader, ":\n", e.restOfLine, "\n^\n\n"]

/-- The readers that refused the text, innermost first, and the place. -/
def message (e : LexError) : String :=
  String.join ["Parse error: ",
    e.refusal 0 "TakeWhile1", e.refusal 1 "identifier", e.refusal 2 "Alt",
    " at position line: ", toString e.place.line, ", column: ", toString e.place.column,
    ", start: ", toString e.place.offset, ", end: ", toString (e.place.offset + 1)]

end LexError

/-- How far a scan came. -/
structure Scan where
  tokens : List Located
  stop : Position
  rest : List Char

/-- The lexemes of a text that begins at `place`. -/
def scan (place : Position) (input : List Char) : Scan :=
  match h : Lexeme.first? input with
  | none => ⟨[], place, input⟩
  | some l =>
    have := Lexeme.length_rest_lt h
    let after := place.advance l.text
    let more := scan after l.rest
    { more with tokens := ⟨l.token, place, after.offset⟩ :: more.tokens }
termination_by input.length

namespace Scan

/-- The tokens, if the scan read everything. -/
def result (s : Scan) : Except LexError (List Located) :=
  match s.rest with
  | [] => .ok s.tokens
  | rest => .error ⟨s.stop, rest⟩

end Scan

/-- The tokens of a text. -/
def tokens? (text : String) : Except LexError (List Located) :=
  (scan Position.start text.toList).result

/-- Texts scanned one after another: each begins where the one before it stopped. -/
def scanAll (place : Position) : List String → List Scan
  | [] => []
  | text :: more =>
    let s := scan place text.toList
    s :: scanAll s.stop more

theorem scan_of_none {place : Position} {input : List Char} (h : Lexeme.first? input = none) :
    scan place input = ⟨[], place, input⟩ := by
  rw [scan]; split
  · rfl
  · next l hl => simp [h] at hl

theorem scan_of_some {place : Position} {input : List Char} {l : Lexeme}
    (h : Lexeme.first? input = some l) :
    scan place input =
      { scan (place.advance l.text) l.rest with
        tokens := ⟨l.token, place, (place.advance l.text).offset⟩ ::
          (scan (place.advance l.text) l.rest).tokens } := by
  rw [scan]; split
  · next hn => simp [h] at hn
  · next l' hl => rw [h] at hl; cases hl; rfl

end CoachScript
