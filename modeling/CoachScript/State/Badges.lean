import CoachScript.State.ByName
import CoachScript.State.Fault

/-!
# Badges

A badge has classes, of which at most one is awarded. **The awarded class is always one of the
badge's classes** (`Badge.awarded_mem`): a redefinition keeps the award only if it lists the class.
-/

namespace CoachScript

/-- A badge: its classes in ascending rank, and the one awarded. -/
structure Badge where
  classes : List String
  awarded : Option String
  awarded_mem : ∀ rank, awarded = some rank → rank ∈ classes
deriving DecidableEq

namespace Badge

/-- A badge with classes, none of them awarded. -/
def ofClasses (classes : List String) : Badge := ⟨classes, none, nofun⟩

/-- The badge with new classes; the award stays if they list it. -/
def redefine (b : Badge) (classes : List String) : Badge :=
  match b.awarded with
  | none => ofClasses classes
  | some rank =>
    if h : rank ∈ classes then ⟨classes, some rank, by simp_all⟩ else ofClasses classes

/-- The badge with a class awarded, if it has the class. -/
def award? (b : Badge) (rank : String) : Option Badge :=
  if h : rank ∈ b.classes then some ⟨b.classes, some rank, by simp_all⟩ else none

/-- The badge without an award. -/
def revoke (b : Badge) : Badge := ofClasses b.classes

end Badge

/-- The badges of a context. -/
structure Badges where
  table : ByName Badge
deriving DecidableEq

namespace Badges

/-- No badges. -/
def empty : Badges := ⟨∅⟩

instance : EmptyCollection Badges := ⟨empty⟩

/-- The badge of a name. -/
def get? (bs : Badges) (name : String) : Option Badge := bs.table[name]?

/-- The badge of a name, or the fault that there is none. -/
def find (bs : Badges) (name : String) : Except ContextFault Badge :=
  match bs.get? name with
  | some b => .ok b
  | none => .error (.unknownBadge name)

/-- Defines a badge, or redefines it. -/
def create (bs : Badges) (name : String) (classes : List String) : Badges :=
  ⟨bs.table.update name (.ofClasses []) (·.redefine classes)⟩

/-- Awards a class of a badge, or says why not; and the badges that this leaves. -/
def grant (bs : Badges) (name rank : String) : Except ContextFault Unit × Badges :=
  match bs.find name with
  | .error e => (.error e, bs)
  | .ok b =>
    match b.award? rank with
    | none => (.error (.unknownBadgeClass name rank), bs)
    | some b => (.ok (), ⟨bs.table.insert name b⟩)

/-- The badges with a class of a badge awarded. -/
def award (bs : Badges) (name rank : String) : Except ContextFault Badges :=
  let (r, bs) := bs.grant name rank
  r.map fun _ => bs

/-- A class of the badge is awarded. An unknown badge has none. -/
def isAwarded (bs : Badges) (name : String) : Bool :=
  ((bs.get? name).bind (·.awarded)).isSome

/-- Takes the award of a badge back. -/
def revoke (bs : Badges) (name : String) : Badges := ⟨bs.table.modify name Badge.revoke⟩

/-- The class of a badge that is awarded. -/
def awarded (bs : Badges) (name : String) : Except ContextFault (Option String) :=
  (bs.find name).map (·.awarded)

/-- Whether a badge is awarded, in a given class if there is one to ask for. -/
def has (bs : Badges) (name : String) (rank? : Option String) : Except ContextFault Bool := do
  let b ← bs.find name
  match rank? with
  | none => pure b.awarded.isSome
  | some rank =>
    if rank ∈ b.classes then pure (b.awarded == some rank)
    else throw (.unknownBadgeClass name rank)

end Badges

end CoachScript
