import CoachScript.Text.Blank
import CoachScript.Text.Pieces

/-!
# Coaches

A coach is a sequence of questions with logic, and logic that runs before and after that of every
question. `Coach.compose?` is the text that runs for a question: the parts that are not blank, each
on lines of its own.
-/

namespace CoachScript

/-- A question and its logic. -/
structure Question where
  id : String
  logic : String
deriving DecidableEq, Repr

/-- A coach. -/
structure Coach where
  id : String
  preLogic : String
  postLogic : String
  questions : List Question
deriving DecidableEq, Repr

namespace Coach

/-- A coach without questions. -/
def ofId (id : String) : Coach := ⟨id, "", "", []⟩

/-- The first question of an id. -/
def question? (c : Coach) (id : String) : Option Question := c.questions.find? (·.id == id)

/-- The ids of the questions. -/
def questionIds (c : Coach) : List String := c.questions.map (·.id)

/-- The parts of a question's logic that are not blank. -/
def parts (c : Coach) (q : Question) : List String :=
  [c.preLogic, q.logic, c.postLogic].filter (!isBlankText ·)

/-- The whole logic of a question. -/
def compose? (c : Coach) (id : String) : Option String :=
  (c.question? id).map fun q => String.ofList (joinWith ['\n'] ((c.parts q).map (·.toList)))

end Coach

end CoachScript
