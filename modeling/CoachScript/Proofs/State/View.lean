import CoachScript.Eval.Pass
import Mathlib.Tactic.SplitIfs

/-!
# What a context shows

A table entry without content tells a script no more than a missing one: a variable without writes,
a score without contributions, an empty bucket. `Context.view` is a context without that difference.

* `Variables.lookup`, `Scores.lookup`: the entry of a name, empty where there is none; every reading
  of a variable is a reading of it (`get?_eq`, `own?_eq`).
* `Contexts.get_modify`: what a change of one context does to any context; `World.get_leave`: names of started
  lines are all that a pass leaves there.
* **One equation per change through the view**: `view_setMemory`, `view_setScores`, ….
-/

namespace CoachScript

/-! ### Tables of variables and scores -/

namespace Variables

variable {α : Type} (vs : Variables α) (name other : String)

/-- The variable of a name, without writes where the name is not known. -/
def lookup : Variable α := vs.table[name]?.getD .empty

theorem get?_eq (source : Option String) : vs.get? name source = (vs.lookup name).get? source := by
  unfold get? lookup
  cases vs.table[name]? with
  | none => cases source <;> rfl
  | some v => rfl

theorem own?_eq (source : String) : vs.own? name source = (vs.lookup name).own? source := by
  unfold own? lookup
  cases vs.table[name]? <;> rfl

theorem lookup_set (source : Option String) (value : α) :
    (vs.set name source value).lookup other =
      if name = other then (vs.lookup name).put source value else vs.lookup other := by
  unfold set lookup
  rw [ByName.getElem?_update]
  split_ifs <;> rfl

theorem lookup_revert (source keep : String) :
    (vs.revert source keep).lookup name =
      if spared keep name then vs.lookup name else (vs.lookup name).without source := by
  unfold revert lookup
  rw [Std.ExtTreeMap.getElem?_map]
  cases vs.table[name]? with
  | none => split_ifs <;> rfl
  | some v => rfl

end Variables

namespace Scores

variable (ss : Scores) (name other : String)

/-- The score of a name, without contributions where there is none. -/
def lookup : Score := ss.table[name]?.getD .empty

theorem lookup_push (source : String) (entry : ScoreEntry) :
    (ss.push name source entry).lookup other =
      if name = other then (ss.lookup name).push source entry else ss.lookup other := by
  unfold push lookup
  rw [ByName.getElem?_update]
  split_ifs <;> rfl

theorem lookup_revert (source : String) :
    (ss.revert source).lookup name = (ss.lookup name).without source := by
  unfold revert lookup
  rw [Std.ExtTreeMap.getElem?_map]
  cases ss.table[name]? <;> rfl

end Scores

/-! ### The view of a context -/

/-- What a context shows. -/
structure ContextView where
  coachId : String
  name : String
  tag : Option String
  argument : String
  memory : String → Variable Value
  scores : String → Score
  badges : Badges
  recommendations : Recommendations
  hidden : Hidden
  handles : ByName Handle
  buckets : String → Recommendations
  fired : Fired

namespace Context

variable (c d : Context)

/-- What the context shows. -/
def view : ContextView where
  coachId := c.coachId
  name := c.name
  tag := c.tag
  argument := c.argument
  memory := c.memory.lookup
  scores := c.scores.lookup
  badges := c.badges
  recommendations := c.recommendations
  hidden := c.hidden
  handles := c.handles
  buckets := c.bucket
  fired := c.fired

theorem bucket_updateBucket (tag other : String) (f : Recommendations → Recommendations) :
    (c.updateBucket tag f).bucket other = if tag = other then f (c.bucket tag) else c.bucket other := by
  unfold updateBucket bucket
  rw [ByName.getElem?_update]
  split_ifs <;> rfl

theorem bucket_unregister (coachId instanceId other : String) :
    (c.unregister coachId instanceId).bucket other =
      if instanceTag coachId instanceId = other then ∅ else c.bucket other := by
  unfold unregister bucket
  rw [Std.ExtTreeMap.getElem?_erase]
  split_ifs with h₁ h₂ h₂ <;> simp_all

theorem view_setMemory (name : String) (source : Option String) (value : Value) :
    { c with memory := c.memory.set name source value }.view = { c.view with
      memory := fun other =>
        if name = other then (c.view.memory name).put source value else c.view.memory other } := by
  unfold view
  congr 1
  funext other
  exact c.memory.lookup_set name other source value

theorem view_pushScore (name source : String) (entry : ScoreEntry) :
    { c with scores := c.scores.push name source entry }.view = { c.view with
      scores := fun other =>
        if name = other then (c.view.scores name).push source entry else c.view.scores other } := by
  unfold view
  congr 1
  funext other
  exact c.scores.lookup_push name other source entry

theorem view_updateBucket (tag : String) (f : Recommendations → Recommendations) :
    (c.updateBucket tag f).view = { c.view with
      buckets := fun other =>
        if tag = other then f (c.view.buckets tag) else c.view.buckets other } := by
  unfold view
  congr 1
  funext other
  exact c.bucket_updateBucket tag other f

theorem view_unregister (coachId instanceId : String) :
    (c.unregister coachId instanceId).view = { c.view with
      handles := c.view.handles.erase (instanceTag coachId instanceId)
      buckets := fun other =>
        if instanceTag coachId instanceId = other then ∅ else c.view.buckets other } := by
  unfold view
  congr 1
  funext other
  exact c.bucket_unregister coachId instanceId other

/-- A change of contexts that only uses what they show. -/
def Lawful (f : Context → Context) : Prop := ∀ c d : Context, c.view = d.view → (f c).view = (f d).view

theorem lawful_setMemory (name : String) (source : Option String) (value : Value) :
    Lawful fun c => { c with memory := c.memory.set name source value } := by
  intro c d h
  rw [view_setMemory, view_setMemory, h]

theorem lawful_pushScore (name source : String) (entry : ScoreEntry) :
    Lawful fun c => { c with scores := c.scores.push name source entry } := by
  intro c d h
  rw [view_pushScore, view_pushScore, h]

theorem lawful_updateBucket (tag : String) (f : Recommendations → Recommendations) :
    Lawful (·.updateBucket tag f) := by
  intro c d h
  rw [view_updateBucket, view_updateBucket, h]

theorem lawful_unregister (coachId instanceId : String) : Lawful (·.unregister coachId instanceId) := by
  intro c d h
  rw [view_unregister, view_unregister, h]

theorem lawful_register (handle : Handle) : Lawful (·.register handle) := by
  intro c d h
  let tag := instanceTag handle.coachId handle.instanceId
  show { c.view with handles := c.view.handles.insert tag handle } =
    { d.view with handles := d.view.handles.insert tag handle }
  rw [h]

theorem lawful_setBadges (badges : Badges) : Lawful fun c => { c with badges } := by
  intro c d h
  show { c.view with badges } = { d.view with badges }
  rw [h]

theorem lawful_setHidden (hidden : Hidden) : Lawful fun c => { c with hidden } := by
  intro c d h
  show { c.view with hidden } = { d.view with hidden }
  rw [h]

theorem lawful_recommend (f : Recommendations → Recommendations) :
    Lawful fun c => { c with recommendations := f c.recommendations } := by
  intro c d h
  show { c.view with recommendations := f c.view.recommendations } =
    { d.view with recommendations := f d.view.recommendations }
  rw [h]

theorem lawful_setFired (fired : Fired) : Lawful fun c => { c with fired } := by
  intro c d h
  show { c.view with fired } = { d.view with fired }
  rw [h]

end Context

/-! ### Ancestors -/

namespace Lineage

variable (l : Lineage)

/-- What is above one of the contexts above another is what comes behind it there. -/
theorem ancestors_of_append {id above : ContextId} {before after : List ContextId}
    (h : l.ancestors id = before ++ above :: after) : l.ancestors above = after := by
  induction before generalizing id with
  | nil => exact l.coherent id above after h
  | cons parent before ih => exact ih (l.coherent id parent (before ++ above :: after) h)

/-- No context is above itself. -/
theorem ne_of_mem_ancestors {id above : ContextId} (h : above ∈ l.ancestors id) : above ≠ id := by
  rintro rfl
  obtain ⟨before, after, hsplit⟩ := List.append_of_mem h
  have hafter := l.ancestors_of_append hsplit
  have hlength := congrArg List.length (hafter.symm.trans hsplit)
  rw [List.length_append, List.length_cons] at hlength
  omega

end Lineage

/-! ### Changes of one context -/

namespace Contexts

variable (cs : Contexts)

theorem get_modify (id other : ContextId) (f : Context → Context) :
    (cs.modify id f).get other =
      if other = id ∧ id < cs.made.size then f (cs.get id) else cs.get other := by
  unfold modify get
  rw [Array.getElem?_modify]
  by_cases h : other = id
  · subst h
    by_cases hlt : other < cs.made.size
    · simp [hlt]
    · simp [hlt]
  · rw [if_neg (Ne.symm h), if_neg fun hc => h hc.1]

theorem size_modify (id : ContextId) (f : Context → Context) :
    (cs.modify id f).made.size = cs.made.size := Array.size_modify

/-- A change that leaves a context as it is leaves all as it is. -/
theorem modify_eq_self {id : ContextId} {f : Context → Context} (h : f (cs.get id) = cs.get id) :
    cs.modify id f = cs := by
  have hmade : cs.made.modify id f = cs.made := by
    refine Array.ext Array.size_modify fun other _ hother => ?_
    rw [Array.getElem_modify]
    split_ifs with hid
    · subst hid
      unfold get at h
      rwa [Array.getElem?_eq_getElem hother] at h
    · rfl
  exact congrArg (fun made => { cs with made }) hmade

/-- A call acts in the evaluating context or above it. -/
theorem resolve_mem (active : ContextId) (path : Path) :
    cs.resolve active path = active ∨ cs.resolve active path ∈ cs.ancestors active := by
  have key : ∀ ids : List ContextId, (∀ id ∈ ids, id ∈ cs.ancestors active) →
      ids.getLast?.getD active = active ∨ ids.getLast?.getD active ∈ cs.ancestors active := by
    intro ids hids
    cases hlast : ids.getLast? with
    | none => exact .inl rfl
    | some id => exact .inr (hids id (List.mem_of_getLast? hlast))
  cases path with
  | levels n => exact key _ fun id hid => List.mem_of_mem_take hid
  | root => exact key _ fun id hid => hid

/-! ### Links and instances -/

section Instances

variable {cs} {ds : Contexts} {parent child : ContextId}

/-- Where a context is put below another, nothing but the links changes. -/
theorem link_eq (h : cs.link child parent = .ok ds) :
    ∃ lineage, cs.lineage.link? child parent = some lineage ∧ ds = { cs with lineage } := by
  unfold link at h
  dsimp only at h
  split_ifs at h
  cases hlink : cs.lineage.link? child parent with
  | none => rw [hlink] at h; cases h
  | some lineage =>
    rw [hlink] at h
    cases h
    exact ⟨lineage, rfl, rfl⟩

/-- A new instance is made, linked and registered; a known one changes nothing. -/
theorem createInstance_eq {coachId instanceId argument : String} {new : Bool}
    (h : cs.createInstance parent coachId instanceId argument = .ok (child, new, ds)) :
    new = false ∧ ds = cs ∨ new = true ∧ ∃ c handle linked,
      (cs.add c.name c).2.link cs.made.size parent = .ok linked ∧
        ds = linked.modify parent (·.register handle) := by
  unfold createInstance at h
  dsimp only at h
  generalize Context.ofInstance (cs.get parent).name coachId instanceId argument = c at h
  cases hfound : cs.stored[c.name]? with
  | some id =>
    rw [hfound] at h
    cases h
    exact .inl ⟨rfl, rfl⟩
  | none =>
    rw [hfound] at h
    cases hlink : (cs.add c.name c).2.link (cs.add c.name c).1 parent with
    | error e => rw [hlink] at h; cases h
    | ok linked =>
      rw [hlink] at h
      cases h
      exact .inr ⟨rfl, c, _, linked, hlink, rfl⟩

end Instances

/-- A coach, number 0, and an instance of a subcoach below it, number 1, both fresh. -/
def pair (coachId subcoachId instanceId : String) : Contexts :=
  let (parent, cs) := (∅ : Contexts).obtain coachId
  match cs.createInstance parent subcoachId instanceId "" with
  | .ok (_, _, cs) => cs
  | .error _ => cs

end Contexts

/-! ### Names of started lines -/

/-- But for the names of started lines, a context is as it was before they were left there. -/
theorem World.get_leave (w : World) (id other : ContextId) (fired : Fired) :
    (w.leave id fired).get other =
      { w.get other with fired := ((w.leave id fired).get other).fired } := by
  unfold leave modify get
  dsimp only
  rw [Contexts.get_modify]
  split_ifs with h
  · rw [h.1]
  · rfl

end CoachScript
