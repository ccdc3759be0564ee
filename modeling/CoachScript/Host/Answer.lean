import CoachScript.Text.Numeric
import CoachScript.Text.Pieces

/-!
# Answers

* `Answer.tokens`: the words of an answer, cut at spaces.
* `owningQuestion?`: the question that an option belongs to, read off the option's id: the id up to
  and with the digits after its last `q` that a decimal digit follows and no ASCII digit precedes.
-/

namespace CoachScript

/-- A stored answer: the ids of the chosen options and free text. -/
structure Answer where
  options : List String
  text : Option String
deriving DecidableEq, Repr

namespace Answer

/-- The words of all options and of the free text. -/
def tokens (a : Answer) : List String :=
  (a.options ++ a.text.toList).flatMap fun s =>
    ((pieces ' ' s.toList).filter (!·.isEmpty)).map String.ofList

/-- The word occurs in the answer. -/
def hasToken (a : Answer) (token : String) : Bool := a.tokens.contains token

end Answer

/-- The decimal digits at the front of a text. -/
def leadingDigits (text : List Char) : List Char := text.takeWhile isDecimalDigit

/-- The part of an option's id that names its question. -/
def owningQuestionOf? : List Char → Option (List Char)
  | [] => none
  | c :: rest =>
    if isAsciiDigit c then none
    else
      match owningQuestionOf? rest with
      | some more => some (c :: more)
      | none =>
        if c = 'q' ∧ leadingDigits rest ≠ [] then some (c :: leadingDigits rest) else none

/-- The question that an option belongs to. -/
def owningQuestion? (optionId : String) : Option String :=
  (owningQuestionOf? optionId.toList).map String.ofList

end CoachScript
