import CoachScript.State.Badges
import CoachScript.State.Hidden
import CoachScript.State.Lineage
import CoachScript.State.Recommendations
import CoachScript.State.Scores
import CoachScript.State.Variables
import CoachScript.Text.Lowercase

/-!
# Contexts

A context is what the scripts of one coach, or of one instance of a subcoach, have written so far,
and which lines started in its latest pass.

* `Context.ofCoach`, `Context.ofInstance`: a fresh context and its fully-qualified name, the coach
  id or the parent's name with the instance's tag, in small letters.
* `Handle`: what a parent knows of an instance below it.
* `Context.clear`: forgets what was written; handles and the buckets themselves stay.
-/

namespace CoachScript

/-- The tag of an instance inside its parent. -/
def instanceTag (coachId instanceId : String) : String := coachId ++ "." ++ instanceId

/-- The fully-qualified name of an instance below a parent. -/
def instanceName (parentName coachId instanceId : String) : String :=
  lowercase (parentName ++ "." ++ instanceTag coachId instanceId)

/-- What a parent knows of an instance below it. -/
structure Handle where
  coachId : String
  instanceId : String
  name : String
  context : ContextId
deriving DecidableEq, Repr

/-- What scripts have written for one coach or subcoach instance. -/
structure Context where
  coachId : String
  /-- The fully-qualified name. -/
  name : String
  /-- The tag inside the parent, for an instance of a subcoach. -/
  tag : Option String
  /-- What the parent attached when it made the instance. -/
  argument : String
  memory : Variables Value
  scores : Scores
  badges : Badges
  recommendations : Recommendations
  hidden : Hidden
  /-- The instances below, by tag. -/
  handles : ByName Handle
  /-- The recommendations of the instances below, by tag. -/
  buckets : ByName Recommendations
  /-- The names of the lines that have started in the latest pass. -/
  fired : Fired
deriving DecidableEq

namespace Context

/-- A context in which nothing was written. -/
def fresh (coachId name : String) (tag : Option String) (argument : String) : Context :=
  ⟨coachId, name, tag, argument, ∅, ∅, ∅, ∅, ∅, ∅, ∅, ∅⟩

instance : Inhabited Context := ⟨fresh "" "" none ""⟩

/-- The fresh context of a coach. -/
def ofCoach (coachId : String) : Context := fresh coachId (lowercase coachId) none ""

/-- The fresh context of an instance below a parent. -/
def ofInstance (parentName coachId instanceId argument : String) : Context :=
  fresh coachId (instanceName parentName coachId instanceId) (some (instanceTag coachId instanceId))
    argument

/-- The handle of an instance. -/
def handle? (c : Context) (coachId instanceId : String) : Option Handle :=
  c.handles[instanceTag coachId instanceId]?

/-- Registers an instance. -/
def register (c : Context) (h : Handle) : Context :=
  { c with handles := c.handles.insert (instanceTag h.coachId h.instanceId) h }

/-- Forgets an instance and its recommendations. -/
def unregister (c : Context) (coachId instanceId : String) : Context :=
  { c with
    handles := c.handles.erase (instanceTag coachId instanceId)
    buckets := c.buckets.erase (instanceTag coachId instanceId) }

/-- The handles by name of their instances. -/
def sortedHandles (c : Context) : List Handle :=
  c.handles.values.mergeSort fun h k => decide (h.name ≤ k.name)

/-- The recommendations in the bucket of a tag. -/
def bucket (c : Context) (tag : String) : Recommendations := c.buckets[tag]?.getD ∅

/-- Changes the bucket of a tag, which is there from then on. -/
def updateBucket (c : Context) (tag : String) (f : Recommendations → Recommendations) : Context :=
  { c with buckets := c.buckets.update tag ∅ f }

/-- The recommendations of the context itself and of all its buckets. -/
def ownRecommendations (c : Context) : List Recommendation :=
  c.recommendations.list ++ c.buckets.values.flatMap (·.list)

/-- Forgets what was written. -/
def clear (c : Context) : Context :=
  { c with
    memory := ∅
    scores := ∅
    badges := ∅
    recommendations := ∅
    hidden := ∅
    buckets := c.buckets.map fun _ _ => ∅
    fired := ∅ }

end Context

end CoachScript
