import CoachScript.Proofs.Builtin.Beside

/-!
# Worlds whose variables hold expressions

* `OpenWorld`: a world in which a variable can hold any expression, also a call.
* `OpenWorld.CallFree`: no variable of any context holds a call. Then **the world is a plain one**,
  `OpenWorld.closed`, and reading and writing are those of the plain world.
-/

namespace CoachScript

/-! ### Variables of expressions -/

/-- The values of a variable, each taken to another. -/
def Variable.map {α β : Type} (f : α → β) (v : Variable α) : Variable β :=
  ⟨v.writes.map fun w => ⟨w.source, f w.value⟩⟩

namespace Variables

/-- The values of all variables, each taken to another. -/
def map {α β : Type} (f : α → β) (vs : Variables α) : Variables β :=
  ⟨vs.table.map fun _ v => v.map f⟩

/-- No write of a variable is a call. -/
def CallFree (vs : Variables Expr) : Prop :=
  ∀ (name : String) (v : Variable Expr), vs.table[name]? = some v →
    ∀ w ∈ v.writes, w.value.isCall = false

/-- The variables with `NULL` in place of calls. -/
def closed (vs : Variables Expr) : Variables Value := vs.map fun e => e.value?.getD .null

end Variables

/-! ### Open worlds -/

/-- A world whose variables hold expressions. Those of `base` itself are not used. -/
structure OpenWorld where
  base : World
  memory : ContextId → Variables Expr

namespace OpenWorld

variable (o : OpenWorld)

/-- The variables of a context. Where no context was made, nothing is held. -/
def held (id : ContextId) : Variables Expr :=
  if id < o.base.contexts.made.size then o.memory id else ∅

/-- Writes a variable of a context. -/
def write (id : ContextId) (name : String) (source : Option String) (e : Expr) : OpenWorld :=
  { o with memory := fun other => if other = id then (o.held id).set name source e else o.held other }

/-- No variable of any context holds a call. -/
def CallFree : Prop := ∀ id, (o.held id).CallFree

/-- The plain world, with `NULL` in place of calls. -/
def closed : World := o.base.holding fun id => (o.held id).closed

end OpenWorld

/-- A plain world as an open one. -/
def World.opened (w : World) : OpenWorld := ⟨w, fun id => (w.get id).memory.map .value⟩

/-! ### Variables without calls -/

namespace Variable

variable {α β : Type} (f : α → β) (v : Variable α)

theorem own?_map (source : String) : (v.map f).own? source = (v.own? source).map f := by
  unfold own? map
  rw [List.find?_map, Option.map_map, Option.map_map]
  rfl

theorem last?_map : (v.map f).last? = v.last?.map f := by
  unfold last? map
  rw [List.getLast?_map, Option.map_map, Option.map_map]
  rfl

theorem get?_map (source : Option String) : (v.map f).get? source = (v.get? source).map f := by
  cases source with
  | none => exact v.last?_map f
  | some source =>
    unfold get?
    dsimp only
    rw [own?_map, last?_map]
    cases v.own? source <;> rfl

theorem put_map (source : Option String) (a : α) :
    (v.put source a).map f = (v.map f).put source (f a) := by
  unfold put map
  rw [List.map_append, List.filter_map]
  rfl

end Variable

namespace Variables

section Map

variable {α β : Type} (f : α → β) (vs : Variables α)

theorem getElem?_map (name : String) :
    (vs.map f).table[name]? = vs.table[name]?.map (Variable.map f) := by
  unfold map
  rw [Std.ExtTreeMap.getElem?_map]

theorem get?_map (name : String) (source : Option String) :
    (vs.map f).get? name source = (vs.get? name source).map f := by
  unfold get?
  rw [getElem?_map]
  cases vs.table[name]? with
  | none => rfl
  | some v => exact v.get?_map f source

theorem own?_map (name source : String) : (vs.map f).own? name source = (vs.own? name source).map f := by
  unfold own?
  rw [getElem?_map]
  cases vs.table[name]? with
  | none => rfl
  | some v => exact v.own?_map f source

theorem set_map (name : String) (source : Option String) (a : α) :
    (vs.set name source a).map f = (vs.map f).set name source (f a) := by
  have htable : ((vs.set name source a).map f).table = ((vs.map f).set name source (f a)).table := by
    refine Std.ExtTreeMap.ext_getElem? fun other => ?_
    rw [getElem?_map]
    unfold set
    rw [ByName.getElem?_update, ByName.getElem?_update, getElem?_map, getElem?_map]
    split_ifs
    · cases vs.table[name]? with
      | none => exact congrArg some (Variable.put_map f .empty source a)
      | some v => exact congrArg some (v.put_map f source a)
    · rfl
  exact congrArg Variables.mk htable

theorem empty_map : (∅ : Variables α).map f = ∅ := by
  have htable : ((∅ : Variables α).map f).table = (∅ : Variables β).table := by
    refine Std.ExtTreeMap.ext_getElem? fun other => ?_
    have hα : (∅ : Variables α).table[other]? = none := Std.ExtTreeMap.getElem?_empty
    have hβ : (∅ : Variables β).table[other]? = none := Std.ExtTreeMap.getElem?_empty
    rw [getElem?_map, hα, hβ]
    rfl
  exact congrArg Variables.mk htable

end Map

theorem callFree_empty : (∅ : Variables Expr).CallFree := by
  intro name v hv
  have hnone : (∅ : Variables Expr).table[name]? = none := Std.ExtTreeMap.getElem?_empty
  rw [hnone] at hv
  cases hv

theorem callFree_map (vs : Variables Value) : (vs.map Expr.value).CallFree := by
  intro name v hv w hw
  rw [getElem?_map] at hv
  obtain ⟨u, -, rfl⟩ := Option.map_eq_some_iff.mp hv
  obtain ⟨write, -, rfl⟩ := List.mem_map.mp hw
  rfl

theorem closed_map (vs : Variables Value) : (vs.map Expr.value).closed = vs := by
  have htable : (vs.map Expr.value).closed.table = vs.table := by
    refine Std.ExtTreeMap.ext_getElem? fun name => ?_
    unfold closed
    rw [getElem?_map, getElem?_map]
    cases vs.table[name]? with
    | none => rfl
    | some v =>
      obtain ⟨writes⟩ := v
      simp [Variable.map, Function.comp_def, Expr.value?]
  exact congrArg Variables.mk htable

variable {vs : Variables Expr} (h : vs.CallFree)
include h

/-- Variables without calls are their values. -/
theorem CallFree.eq_map : vs = vs.closed.map .value := by
  have htable : vs.table = (vs.closed.map Expr.value).table := by
    refine Std.ExtTreeMap.ext_getElem? fun name => ?_
    unfold closed
    rw [getElem?_map, getElem?_map]
    cases hv : vs.table[name]? with
    | none => rfl
    | some v =>
      have hwrites : v.writes = (v.map (fun e => e.value?.getD .null)).writes.map
          fun w => ⟨w.source, .value w.value⟩ := by
        unfold Variable.map
        rw [List.map_map]
        refine (List.map_id _).symm.trans (List.map_congr_left fun w hw => ?_)
        obtain ⟨source, e⟩ := w
        cases e with
        | value v => rfl
        | call => cases h name v hv _ hw
      exact congrArg (fun writes => some (Variable.mk writes)) hwrites
  exact congrArg Variables.mk htable

theorem CallFree.get?_eq (name : String) (source : Option String) :
    vs.get? name source = (vs.closed.get? name source).map .value := by
  conv => lhs; rw [h.eq_map]
  exact get?_map Expr.value vs.closed name source

theorem CallFree.own?_eq (name source : String) :
    vs.own? name source = (vs.closed.own? name source).map .value := by
  conv => lhs; rw [h.eq_map]
  exact own?_map Expr.value vs.closed name source

theorem CallFree.set (name : String) (source : Option String) (v : Value) :
    (vs.set name source (.value v)).CallFree := by
  rw [h.eq_map, ← set_map]
  exact callFree_map _

end Variables

/-- A write of one context's variables, in other variables. -/
theorem Contexts.holding_write (cs : Contexts) {memory memory' : ContextId → Variables Value}
    {id : ContextId} (g : Variables Value → Variables Value)
    (hid : id < cs.made.size → memory' id = g (memory id))
    (hother : ∀ other, other < cs.made.size → other ≠ id → memory' other = memory other) :
    cs.holding memory' =
      (cs.holding memory).modify id fun c => { c with memory := g c.memory } := by
  unfold modify holding
  congr 1
  refine Array.ext (by simp) fun other h h' => ?_
  have hlt : other < cs.made.size := by simpa using h
  simp only [Array.getElem_modify, Array.getElem_mapIdx]
  split_ifs with heq
  · subst heq
    rw [hid hlt]
  · rw [hother other hlt (Ne.symm heq)]

namespace OpenWorld

variable (o : OpenWorld)

theorem memory_closed (id : ContextId) : (o.closed.get id).memory = (o.held id).closed := by
  unfold closed World.get
  rw [World.contexts_holding, Contexts.get_holding]
  unfold held
  split_ifs with hid
  · rfl
  · unfold Contexts.get
    rw [Array.getElem?_eq_none (Nat.le_of_not_lt hid)]
    exact (Variables.empty_map _).symm

theorem fits_closed : o.base.Fits fun id => (o.held id).closed := by
  intro id hid
  have hempty : o.held id = ∅ := if_neg (Nat.not_lt_of_le hid)
  dsimp only
  rw [hempty]
  exact Variables.empty_map _

/-- Contexts made meanwhile hold nothing. -/
theorem held_beside (base : World) {id : ContextId} (h : id < base.contexts.made.size) :
    (⟨base, o.held⟩ : OpenWorld).held id = o.held id := if_pos h

theorem closed_beside (base : World) :
    (⟨base, o.held⟩ : OpenWorld).closed = base.holding fun id => (o.held id).closed := by
  unfold closed World.holding
  congr 1
  refine Contexts.holding_congr _ fun id hid => ?_
  rw [held_beside o base hid]

theorem closed_write (id : ContextId) (name : String) (source : Option String) (v : Value) :
    (o.write id name source (.value v)).closed =
      o.closed.modify id fun c => { c with memory := c.memory.set name source v } := by
  refine congrArg (fun contexts => { o.base with contexts }) ?_
  refine o.base.contexts.holding_write (fun vs => vs.set name source v) (fun hid => ?_) fun other hlt hother => ?_
  · have hheld : (o.write id name source (.value v)).held id = (o.held id).set name source (.value v) :=
      (if_pos hid).trans (if_pos rfl)
    rw [hheld]
    exact Variables.set_map (fun e : Expr => e.value?.getD .null) (o.held id) name source (.value v)
  · have hheld : (o.write id name source (.value v)).held other = o.held other :=
      (if_pos hlt).trans (if_neg hother)
    rw [hheld]

variable {o}

theorem CallFree.beside (h : o.CallFree) (base : World) : (⟨base, o.held⟩ : OpenWorld).CallFree := by
  intro id
  unfold held
  split_ifs
  · exact h id
  · exact Variables.callFree_empty

theorem CallFree.write (h : o.CallFree) (id : ContextId) (name : String) (source : Option String)
    (v : Value) : (o.write id name source (.value v)).CallFree := by
  intro other
  unfold held OpenWorld.write
  dsimp only
  split_ifs
  · exact (h id).set name source v
  · exact h other
  · exact Variables.callFree_empty

end OpenWorld

namespace World

variable (w : World)

theorem held_opened (id : ContextId) : w.opened.held id = (w.get id).memory.map .value := by
  unfold OpenWorld.held opened
  split_ifs with h
  · rfl
  · unfold get Contexts.get
    rw [Array.getElem?_eq_none (Nat.le_of_not_lt h)]
    exact (Variables.empty_map _).symm

theorem callFree_opened : w.opened.CallFree := by
  intro id
  rw [held_opened]
  exact Variables.callFree_map _

theorem closed_opened : w.opened.closed = w := by
  have hsame : w.contexts.holding (fun id => (w.opened.held id).closed) = w.contexts := by
    unfold Contexts.holding
    congr 1
    refine Array.ext (by simp) fun id h h' => ?_
    simp only [Array.getElem_mapIdx, held_opened, Variables.closed_map]
    unfold get Contexts.get
    rw [Array.getElem?_eq_getElem h']
    rfl
  exact congrArg (fun contexts => { w with contexts }) hsame

end World

end CoachScript
