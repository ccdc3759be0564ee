/-!
# Faults of the context tree and of badges
-/

namespace CoachScript

/-- Why an operation on contexts or badges was refused. -/
inductive ContextFault where
  | parentAlreadySet (child : String)
  | ownParent (context : String)
  | cycle (child parent : String)
  | unknownContext (key : String)
  | unknownBadge (badge : String)
  | unknownBadgeClass (badge rank : String)
deriving DecidableEq, Repr

/-- The wording of a fault. -/
def ContextFault.message : ContextFault → String
  | .parentAlreadySet child => String.join ["parent of context ", child, " is already set"]
  | .ownParent context => String.join ["context ", context, " cannot be its own parent"]
  | .cycle child parent =>
    String.join ["linking ", child, " under ", parent, " would create a cycle"]
  | .unknownContext key => String.join ["unknown context ", key]
  | .unknownBadge badge => String.join ["unknown badge ", badge]
  | .unknownBadgeClass badge rank => String.join ["badge ", badge, " has no class ", rank]

end CoachScript
