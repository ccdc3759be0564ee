import CoachScript.Decimal
import CoachScript.State.ByName

/-!
# Scores

A score is what its sources contributed: values, which add up, and caps, of which the smallest
limits the sum.

* `Score.total`: the visible value.
* `Score.without`: what is left when one source takes its contributions back.
* `Scores`: the scores of a context by name; a score nobody contributed to is zero.
-/

namespace CoachScript

/-- One contribution to a score. -/
inductive ScoreEntry where
  | value (d : Decimal)
  | cap (d : Decimal)
deriving DecidableEq

/-- The value that a contribution adds. -/
def ScoreEntry.value? : ScoreEntry → Option Decimal
  | .value d => some d
  | .cap _ => none

/-- The limit that a contribution sets. -/
def ScoreEntry.cap? : ScoreEntry → Option Decimal
  | .value _ => none
  | .cap d => some d

/-- The contributions to one score with their sources, oldest first. -/
structure Score where
  entries : List (String × ScoreEntry)
deriving DecidableEq

namespace Score

/-- A score without contributions. -/
def empty : Score := ⟨[]⟩

/-- Adds a contribution. -/
def push (s : Score) (source : String) (entry : ScoreEntry) : Score :=
  ⟨s.entries ++ [(source, entry)]⟩

/-- The contributions of one source. -/
def ofSource (s : Score) (source : String) : List ScoreEntry :=
  (s.entries.filter (·.1 == source)).map (·.2)

/-- The source has contributed. -/
def hasSource (s : Score) (source : String) : Bool := s.entries.any (·.1 == source)

/-- The score without the contributions of a source. -/
def without (s : Score) (source : String) : Score := ⟨s.entries.filter (·.1 != source)⟩

/-- The sum of the values. -/
def sum (s : Score) : Decimal := Decimal.sum (s.entries.filterMap (·.2.value?))

/-- The smallest cap. -/
def limit? (s : Score) : Option Decimal :=
  match s.entries.filterMap (·.2.cap?) with
  | [] => none
  | cap :: caps => some (caps.foldl Decimal.min cap)

/-- The visible value: the sum, but no more than the smallest cap. -/
def total (s : Score) : Decimal :=
  match s.limit? with
  | some cap => if cap.lt s.sum then cap else s.sum
  | none => s.sum

end Score

/-- The scores of a context. -/
structure Scores where
  table : ByName Score
deriving DecidableEq

namespace Scores

/-- No scores. -/
def empty : Scores := ⟨∅⟩

instance : EmptyCollection Scores := ⟨empty⟩

/-- Adds a contribution to a score. -/
def push (ss : Scores) (name source : String) (entry : ScoreEntry) : Scores :=
  ⟨ss.table.update name .empty (·.push source entry)⟩

/-- The visible value of a score. -/
def value (ss : Scores) (name : String) : Decimal := (ss.table[name]?.getD .empty).total

/-- The names of the scores, in order. -/
def names (ss : Scores) : List String := ss.table.keys

/-- The scores that a source contributed to. -/
def contributed (ss : Scores) (source : String) : List String :=
  (ss.table.toList.filter (·.2.hasSource source)).map (·.1)

/-- Takes back every contribution of a source. -/
def revert (ss : Scores) (source : String) : Scores := ⟨ss.table.map fun _ s => s.without source⟩

end Scores

end CoachScript
