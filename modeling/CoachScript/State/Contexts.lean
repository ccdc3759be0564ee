import CoachScript.Script.Expr
import CoachScript.State.Context

/-!
# The tree of contexts

`Contexts` holds every context ever made, by number, the parent links between them, and the
contexts that are stored, by key: the id of a coach or the fully-qualified name of an instance, in
small letters. A context that is no longer stored lives on for those that still hold it: its
children, its parent's handle, a running pass.

* `obtain`, `createInstance`, `removeInstance`, `reset`: storing and removing.
* `link`: puts a context below another, unless that would break the forest.
* `resolve`: the context where a call acts.
* `shelf`: where a context's recommendations are kept, in itself or in a bucket of its parent.
* `summary`: all recommendations of a stored context and of the instances below it.
-/

namespace CoachScript

/-- Every context, and which are stored. -/
structure Contexts where
  made : Array Context
  lineage : Lineage
  stored : ByName ContextId

namespace Contexts

/-- No contexts. -/
def empty : Contexts := ⟨#[], .empty, ∅⟩

instance : EmptyCollection Contexts := ⟨empty⟩

/-! ### Looking -/

/-- The context of a number. -/
def get (cs : Contexts) (id : ContextId) : Context := cs.made[id]?.getD default

/-- The stored context of a key, in any letter case. -/
def find? (cs : Contexts) (key : String) : Option ContextId := cs.stored[lowercase key]?

/-- A context is stored under the key. -/
def contains (cs : Contexts) (key : String) : Bool := (cs.find? key).isSome

/-- The keys of the stored contexts, in order. -/
def keys (cs : Contexts) : List String := cs.stored.keys

/-- The number of stored contexts. -/
def size (cs : Contexts) : Nat := cs.stored.size

/-- The parent of a context. -/
def parent? (cs : Contexts) (id : ContextId) : Option ContextId := cs.lineage.parent? id

/-- The contexts above one, nearest first. -/
def ancestors (cs : Contexts) (id : ContextId) : List ContextId := cs.lineage.ancestors id

/-- The context where a call with the given path acts. -/
def resolve (cs : Contexts) (active : ContextId) : Path → ContextId
  | .levels n => cs.lineage.climb active n
  | .root => cs.lineage.top active

/-! ### Changing -/

/-- Changes one context. -/
def modify (cs : Contexts) (id : ContextId) (f : Context → Context) : Contexts :=
  { cs with made := cs.made.modify id f }

/-- Makes a context and stores it under a key. -/
def add (cs : Contexts) (key : String) (c : Context) : ContextId × Contexts :=
  (cs.made.size,
    { cs with made := cs.made.push c, stored := cs.stored.insert key cs.made.size })

/-- The context of a coach, made if there is none. -/
def obtain (cs : Contexts) (coachId : String) : ContextId × Contexts :=
  match cs.find? coachId with
  | some id => (id, cs)
  | none => cs.add (lowercase coachId) (.ofCoach coachId)

/-- Puts a context below another. Contexts of one name count as the same here. -/
def link (cs : Contexts) (child parent : ContextId) : Except ContextFault Contexts :=
  let name (id : ContextId) : String := (cs.get id).name
  if child = parent ∨ name child = name parent then .error (.ownParent (name child))
  else if (cs.parent? child).isSome then .error (.parentAlreadySet (name child))
  else if (cs.ancestors parent).any fun id => id == child || name id == name child then
    .error (.cycle (name child) (name parent))
  else
    match cs.lineage.link? child parent with
    | some lineage => .ok { cs with lineage }
    | none => .error (.cycle (name child) (name parent))

/-- Makes the instance of a subcoach below a context, or finds the one that is stored. The flag says
whether it is new. Only a new one is linked and registered. -/
def createInstance (cs : Contexts) (parent : ContextId) (coachId instanceId argument : String) :
    Except ContextFault (ContextId × Bool × Contexts) :=
  let c := Context.ofInstance (cs.get parent).name coachId instanceId argument
  match cs.stored[c.name]? with
  | some id => .ok (id, false, cs)
  | none => do
    let (id, grown) := cs.add c.name c
    let linked ← grown.link id parent
    pure (id, true, linked.modify parent (·.register ⟨coachId, instanceId, c.name, id⟩))

/-- The key lies below another: it is that key, a dot, and more. -/
def isBelow (key other : String) : Bool := (key ++ ".").toList.isPrefixOf other.toList

/-- Removes a key and those below it; says whether the key itself was there. -/
def removeTree (cs : Contexts) (key : String) : Bool × Contexts :=
  (cs.stored.contains key,
    { cs with stored := (cs.stored.erase key).filter fun other _ => !isBelow key other })

/-- Removes an instance, those below it, and what its parent keeps of it; says whether there was
anything to remove but recommendations. -/
def removeInstance (cs : Contexts) (parent : ContextId) (coachId instanceId : String) :
    Bool × Contexts :=
  let known := ((cs.get parent).handle? coachId instanceId).isSome
  let key := instanceName (cs.get parent).name coachId instanceId
  let (removed, cs) := (cs.modify parent (·.unregister coachId instanceId)).removeTree key
  (known || removed, cs)

/-- Removes the context of a key and those below it. -/
def reset (cs : Contexts) (key : String) : Bool × Contexts := cs.removeTree (lowercase key)

/-- Removes every context. -/
def resetAll (cs : Contexts) : Contexts := { cs with stored := ∅ }

/-! ### Recommendations -/

/-- A place for recommendations. -/
inductive Shelf where
  /-- A context itself. -/
  | own (id : ContextId)
  /-- The bucket that a context keeps for one instance. -/
  | bucket (id : ContextId) (tag : String)
deriving DecidableEq, Repr

/-- Where a context's recommendations are kept: below a parent in the parent's bucket. -/
def shelf (cs : Contexts) (id : ContextId) : Shelf :=
  match cs.parent? id with
  | some parent => .bucket parent ((cs.get id).tag.getD (cs.get id).name)
  | none => .own id

/-- The recommendations on a shelf. -/
def onShelf (cs : Contexts) : Shelf → Recommendations
  | .own id => (cs.get id).recommendations
  | .bucket id tag => (cs.get id).bucket tag

/-- Changes the recommendations on a shelf. A bucket is there from then on. -/
def updateShelf (cs : Contexts) (f : Recommendations → Recommendations) : Shelf → Contexts
  | .own id => cs.modify id fun c => { c with recommendations := f c.recommendations }
  | .bucket id tag => cs.modify id (·.updateBucket tag f)

/-- The recommendations of the context stored under a key, and of those that its handles name, among
the keys in `pool`. No way down comes to a key twice, so a key that was visited is left out. -/
def gather (cs : Contexts) (pool : ByName ContextId) (key : String) : List Recommendation :=
  match h : pool[key]? with
  | none => []
  | some id =>
    have := ByName.size_erase_lt h
    (cs.get id).ownRecommendations ++
      (cs.get id).sortedHandles.flatMap fun handle =>
        cs.gather (pool.erase key) (lowercase handle.name)
termination_by pool.size

/-- All recommendations that can be seen from a stored context. -/
def summary (cs : Contexts) (key : String) : Except ContextFault (List Recommendation) :=
  if cs.contains key then .ok (sortRecommendations (cs.gather cs.stored (lowercase key)))
  else .error (.unknownContext key)

end Contexts

end CoachScript
