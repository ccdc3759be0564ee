import CoachScript.Script.Grammar
import CoachScript.Script.Segment

/-!
# Reading a listing

`Listing.read` turns a text into its lines: the text is scanned, cut into segments, and each segment
that holds a token is read as a line. The first segment that is no line refuses the whole text.

* `SyntaxFault`: the cause, the source text and the line of the place that was refused.
* `readSegments`: the lines of a sequence of segments of a source text.
-/

namespace CoachScript

/-- Why a text is no listing. -/
inductive SyntaxCause where
  | lexical (e : LexError)
  | unterminated
  | grammatical (e : ParseError)
deriving DecidableEq, Repr

/-- The wording of a cause. -/
def SyntaxCause.message : SyntaxCause → String
  | .lexical e => e.message
  | .unterminated => "missing `;` at end of line"
  | .grammatical e => e.message

/-- A text that is no listing, and the place where that shows. -/
structure SyntaxFault where
  cause : SyntaxCause
  snippet : String
  line : Nat
deriving DecidableEq, Repr

/-- The wording of a syntax fault. -/
def SyntaxFault.message (e : SyntaxFault) : String :=
  String.join
    ["syntax error on line ", toString e.line, " in `", e.snippet, "`: ", e.cause.message]

/-- The line that a segment's tokens make up. -/
def readLine (s : Segment) : Except SyntaxCause Line :=
  if s.terminated then
    match Grammar.line ⟨0, s.tokens⟩ with
    | .ok (line, _) => .ok line
    | .error e => .error (.grammatical e)
  else .error .unterminated

/-- The lines of the segments of a source text; a segment without tokens is none. -/
def readSegments (source : String) : List Segment → Except SyntaxFault Listing
  | [] => .ok []
  | s :: more =>
    if s.tokens.isEmpty then readSegments source more
    else
      match readLine s with
      | .error cause => .error ⟨cause, s.snippet source, s.line⟩
      | .ok line => (readSegments source more).map (line :: ·)

/-- The lines of a text. -/
def readListing (source : String) : Except SyntaxFault Listing :=
  match tokens? source with
  | .error e => .error ⟨.lexical e, e.found, e.place.line⟩
  | .ok tokens => readSegments source (segments tokens)

end CoachScript
