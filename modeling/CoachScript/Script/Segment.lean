import CoachScript.Script.Scan

/-!
# Segments: one script line each

A `;` outside all brackets ends a line. A `Segment` holds the tokens of one line without their
trivia and without that `;`, and the byte range of the source that it covers, terminator included.

* `lineTokens`: the tokens up to the first `;` at depth zero or below, that `;`, and the rest.
* `segments`: all lines of a token sequence. Only the last can lack its terminator.
* `Segment.snippet`: the source text of a segment.
-/

namespace CoachScript

/-- The tokens of one script line and its place in the source. -/
structure Segment where
  tokens : List Token
  start : Nat
  stop : Nat
  line : Nat
  terminated : Bool
deriving DecidableEq, Repr

/-- How a token changes the number of open brackets. -/
def Token.nesting : Token → Int
  | .delimiter .openParen | .delimiter .openBrace => 1
  | .delimiter .closeParen | .delimiter .closeBrace => -1
  | _ => 0

/-- The token ends a line when no more brackets are open than closed. -/
def Token.endsLine (depth : Int) (token : Token) : Bool :=
  token == .delimiter .semicolon && decide (depth ≤ 0)

/-- The tokens of the first line, its terminator, and the tokens after it. -/
def lineTokens (depth : Int) : List Located → List Located × Option Located × List Located
  | [] => ([], none, [])
  | t :: rest =>
    if t.token.endsLine depth then ([], some t, rest)
    else
      let (line, terminator, after) := lineTokens (depth + t.token.nesting) rest
      (t :: line, terminator, after)

theorem lineTokens_rest_length (depth : Int) (ts : List Located) :
    (lineTokens depth ts).2.2.length ≤ ts.length := by
  induction ts generalizing depth with
  | nil => simp [lineTokens]
  | cons t rest ih =>
    unfold lineTokens
    split
    · simp
    · exact Nat.le_succ_of_le (ih (depth + t.token.nesting))

theorem lineTokens_rest_length_lt (depth : Int) (t : Located) (ts : List Located) :
    (lineTokens depth (t :: ts)).2.2.length < (t :: ts).length := by
  unfold lineTokens
  split
  · simp
  · exact Nat.lt_succ_of_le (lineTokens_rest_length (depth + t.token.nesting) ts)

/-- The segment of a line that begins with `first`. -/
def segmentOf (first : Located) (line : List Located) (terminator : Option Located) : Segment where
  tokens := line.map (·.token)
  start := first.first.offset
  stop := (terminator <|> line.getLast?).elim first.stop (·.stop)
  line := first.first.line
  terminated := terminator.isSome

/-- The lines of a sequence of tokens without trivia. -/
def segmentsOfWords : List Located → List Segment
  | [] => []
  | t :: ts =>
    let cut := lineTokens 0 (t :: ts)
    segmentOf t cut.1 cut.2.1 :: segmentsOfWords cut.2.2
termination_by ts => ts.length
decreasing_by exact lineTokens_rest_length_lt 0 t ts

/-- The sequence without trivia. -/
def words (ts : List Located) : List Located := ts.filter (!·.token.isTrivia)

/-- The lines of a sequence of tokens. -/
def segments (ts : List Located) : List Segment := segmentsOfWords (words ts)

/-- The source text of a segment, without blanks at its ends. -/
def Segment.snippet (s : Segment) (source : String) : String :=
  String.ofList (trim ((byteSlice source.toList s.start s.stop).getD []))

end CoachScript
