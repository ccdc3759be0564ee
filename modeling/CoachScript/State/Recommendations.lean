import CoachScript.State.ByName
import CoachScript.Text.Blank
import CoachScript.Text.Pieces

/-!
# Recommendations

* `Tag.readList`: the tags of a text such as `sleep:health:green, walk:fitness:red`; an entry that
  has not three parts, or an empty one, is passed over.
* `Recommendations`: one recommendation per id.
* `sortRecommendations`: by rank, then by id; equals keep their order.
-/

namespace CoachScript

/-- A tag of a recommendation. -/
structure Tag where
  label : String
  category : String
  color : String
deriving DecidableEq, Repr

/-- The tag that a text writes. -/
def Tag.read? (text : List Char) : Option Tag :=
  match (pieces ':' text).map trim with
  | [label, category, color] =>
    if label.isEmpty || category.isEmpty || color.isEmpty then none
    else some ⟨String.ofList label, String.ofList category, String.ofList color⟩
  | _ => none

/-- The tags that a text lists. -/
def Tag.readList (text : String) : List Tag := (pieces ',' text.toList).filterMap Tag.read?

/-- A recommendation to the coached person. -/
structure Recommendation where
  id : String
  order : Int
  title : String
  text : String
  tags : List Tag
  /-- The subcoach instance that made it. -/
  contributor : Option String
deriving DecidableEq, Repr

/-- A recommendation is listed no later than another. -/
def Recommendation.le (r s : Recommendation) : Bool :=
  r.order < s.order || (r.order == s.order && decide (r.id ≤ s.id))

/-- Recommendations in the order in which they are shown. -/
def sortRecommendations (rs : List Recommendation) : List Recommendation :=
  rs.mergeSort Recommendation.le

/-- A set of recommendations, one per id. -/
structure Recommendations where
  table : ByName Recommendation
deriving DecidableEq

namespace Recommendations

/-- No recommendations. -/
def empty : Recommendations := ⟨∅⟩

instance : EmptyCollection Recommendations := ⟨empty⟩

/-- Adds a recommendation; it replaces one with its id. -/
def add (rs : Recommendations) (r : Recommendation) : Recommendations :=
  ⟨rs.table.insert r.id r⟩

/-- Removes the recommendation of an id. -/
def remove (rs : Recommendations) (id : String) : Recommendations := ⟨rs.table.erase id⟩

/-- The recommendation of an id. -/
def get? (rs : Recommendations) (id : String) : Option Recommendation := rs.table[id]?

/-- There is a recommendation of the id. -/
def contains (rs : Recommendations) (id : String) : Bool := rs.table.contains id

/-- The number of recommendations. -/
def size (rs : Recommendations) : Nat := rs.table.size

/-- The recommendations as they are shown. -/
def list (rs : Recommendations) : List Recommendation := sortRecommendations rs.table.values

end Recommendations

end CoachScript
