import CoachScript.State.ByName

/-!
# Hidden questions and fired lines

Two sets of names: `Hidden`, the questions of a context that are not shown, and `Fired`, the lines
that ran in one pass. Nameless lines are never counted among the fired ones.
-/

namespace CoachScript

/-- The hidden questions of a context. -/
structure Hidden where
  ids : Names
deriving DecidableEq

namespace Hidden

/-- Every question is shown. -/
def empty : Hidden := ⟨∅⟩

instance : EmptyCollection Hidden := ⟨empty⟩

/-- The question is hidden. -/
def contains (h : Hidden) (id : String) : Bool := h.ids.contains id

/-- Hides a question, or shows it. -/
def set (h : Hidden) (id : String) (hide : Bool) : Hidden :=
  ⟨if hide then h.ids.insert id else h.ids.erase id⟩

/-- Setting a question's visibility makes a difference. -/
def changes (h : Hidden) (id : String) (hide : Bool) : Bool := h.contains id != hide

/-- The hidden questions, in order. -/
def list (h : Hidden) : List String := h.ids.toList

end Hidden

/-- The names of the lines that ran in a pass. -/
structure Fired where
  names : Names
deriving DecidableEq

namespace Fired

/-- No line ran yet. -/
def empty : Fired := ⟨∅⟩

instance : EmptyCollection Fired := ⟨empty⟩

/-- A line of the name ran. -/
def has (f : Fired) (name : String) : Bool := f.names.contains name

/-- A line of the name may run: it has no name, or is the first of its name. -/
def allows (f : Fired) (name : String) : Bool := name.isEmpty || !f.has name

/-- Counts a line as run. -/
def fire (f : Fired) (name : String) : Fired :=
  if name.isEmpty then f else ⟨f.names.insert name⟩

end Fired

end CoachScript
