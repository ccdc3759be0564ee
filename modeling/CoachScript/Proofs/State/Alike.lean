import CoachScript.Proofs.Eval.Congruence
import CoachScript.Proofs.State.View

/-!
# Worlds that look alike

* `Contexts.Alike`: the same links and keys, and contexts that show the same.
* `World.Alike old old'`: besides, the same host, and the same messages after the old ones.
* The changes of the context tree, from `Contexts.Alike.modify` to `Contexts.Alike.createInstance`,
  turn alike trees into alike trees.
-/

namespace CoachScript

/-! ### Trees of contexts -/

namespace Contexts

/-- Trees of contexts that show the same. -/
structure Alike (cs ds : Contexts) : Prop where
  size : cs.made.size = ds.made.size
  lineage : cs.lineage = ds.lineage
  stored : cs.stored = ds.stored
  view : ∀ id, (cs.get id).view = (ds.get id).view

namespace Alike

variable {cs ds es : Contexts}

theorem refl (cs : Contexts) : cs.Alike cs := ⟨rfl, rfl, rfl, fun _ => rfl⟩

theorem trans (h : cs.Alike ds) (h' : ds.Alike es) : cs.Alike es :=
  ⟨h.size.trans h'.size, h.lineage.trans h'.lineage, h.stored.trans h'.stored,
    fun id => (h.view id).trans (h'.view id)⟩

variable (h : cs.Alike ds)
include h

theorem name (id : ContextId) : (cs.get id).name = (ds.get id).name :=
  congrArg ContextView.name (h.view id)

theorem tag (id : ContextId) : (cs.get id).tag = (ds.get id).tag :=
  congrArg ContextView.tag (h.view id)

theorem coachId (id : ContextId) : (cs.get id).coachId = (ds.get id).coachId :=
  congrArg ContextView.coachId (h.view id)

theorem memory (id : ContextId) (name : String) :
    (cs.get id).memory.lookup name = (ds.get id).memory.lookup name :=
  congrFun (congrArg ContextView.memory (h.view id)) name

theorem scores (id : ContextId) (name : String) :
    (cs.get id).scores.lookup name = (ds.get id).scores.lookup name :=
  congrFun (congrArg ContextView.scores (h.view id)) name

theorem badges (id : ContextId) : (cs.get id).badges = (ds.get id).badges :=
  congrArg ContextView.badges (h.view id)

theorem hidden (id : ContextId) : (cs.get id).hidden = (ds.get id).hidden :=
  congrArg ContextView.hidden (h.view id)

theorem handles (id : ContextId) : (cs.get id).handles = (ds.get id).handles :=
  congrArg ContextView.handles (h.view id)

theorem modify (id : ContextId) {f : Context → Context} (hf : Context.Lawful f) :
    (cs.modify id f).Alike (ds.modify id f) where
  size := by rw [size_modify, size_modify, h.size]
  lineage := h.lineage
  stored := h.stored
  view other := by
    rw [get_modify, get_modify, h.size]
    split_ifs with hid
    · exact hf _ _ (h.view id)
    · exact h.view other

/-! ### Recommendations -/

theorem shelf (id : ContextId) : cs.shelf id = ds.shelf id := by
  unfold Contexts.shelf parent?
  rw [h.lineage, h.tag, h.name]

theorem onShelf (s : Shelf) : cs.onShelf s = ds.onShelf s := by
  cases s with
  | own id => exact congrArg ContextView.recommendations (h.view id)
  | bucket id tag => exact congrFun (congrArg ContextView.buckets (h.view id)) tag

theorem updateShelf (f : Recommendations → Recommendations) (s : Shelf) :
    (cs.updateShelf f s).Alike (ds.updateShelf f s) := by
  cases s with
  | own id => exact h.modify id (Context.lawful_recommend f)
  | bucket id tag => exact h.modify id (Context.lawful_updateBucket tag f)

/-! ### Instances -/

theorem add (key : String) (c : Context) :
    (cs.add key c).1 = (ds.add key c).1 ∧ (cs.add key c).2.Alike (ds.add key c).2 := by
  refine ⟨h.size, ?_, h.lineage, ?_, fun id => ?_⟩
  · unfold Contexts.add
    rw [Array.size_push, Array.size_push, h.size]
  · unfold Contexts.add
    rw [h.stored, h.size]
  · have hview := h.view id
    unfold Contexts.add
    unfold get at hview ⊢
    rw [Array.getElem?_push, Array.getElem?_push, h.size]
    split_ifs with hid
    · rfl
    · exact hview

theorem link (child parent : ContextId) :
    Matching Alike (cs.link child parent) (ds.link child parent) := by
  unfold Contexts.link parent? ancestors
  simp only [h.name, h.lineage]
  split_ifs
  · exact .error _
  · exact .error _
  · exact .error _
  · cases ds.lineage.link? child parent with
    | none => exact .error _
    | some lineage => exact .ok ⟨h.size, rfl, h.stored, h.view⟩

theorem createInstance (parent : ContextId) (coachId instanceId argument : String) :
    Matching (fun x y => x.1 = y.1 ∧ x.2.1 = y.2.1 ∧ Alike x.2.2 y.2.2)
      (cs.createInstance parent coachId instanceId argument)
      (ds.createInstance parent coachId instanceId argument) := by
  unfold Contexts.createInstance
  rw [h.name, h.stored]
  dsimp only
  generalize Context.ofInstance (ds.get parent).name coachId instanceId argument = c
  cases ds.stored[c.name]? with
  | some id => exact .ok ⟨rfl, rfl, h⟩
  | none =>
    obtain ⟨hid, hgrown⟩ := h.add c.name c
    rw [hid]
    have hlink := hgrown.link (ds.add c.name c).1 parent
    revert hlink
    generalize (cs.add c.name c).2.link (ds.add c.name c).1 parent = x
    generalize (ds.add c.name c).2.link (ds.add c.name c).1 parent = y
    intro hlink
    cases hlink with
    | error e => exact .error e
    | ok hlinked => exact .ok ⟨rfl, rfl, hlinked.modify parent (Context.lawful_register _)⟩

theorem removeInstance (parent : ContextId) (coachId instanceId : String) :
    (cs.removeInstance parent coachId instanceId).1 =
        (ds.removeInstance parent coachId instanceId).1 ∧
      (cs.removeInstance parent coachId instanceId).2.Alike
        (ds.removeInstance parent coachId instanceId).2 := by
  have hrest := h.modify parent (Context.lawful_unregister coachId instanceId)
  unfold Contexts.removeInstance removeTree Context.handle?
  dsimp only
  rw [h.handles, h.name, hrest.stored]
  exact ⟨rfl, hrest.size, hrest.lineage, rfl, hrest.view⟩

end Alike

end Contexts

/-! ### Worlds -/

/-- Worlds that show the same, but for what their logs held before. -/
structure World.Alike (old old' : Array LogRecord) (w w' : World) : Prop where
  contexts : w.contexts.Alike w'.contexts
  host : w.host = w'.host
  log : ∃ lines, w.log = old ++ lines ∧ w'.log = old' ++ lines

namespace World.Alike

variable {old old' : Array LogRecord} {w w' : World}

theorem of_contexts (h : World.Alike old old' w w') {cs ds : Contexts} (hcs : cs.Alike ds) :
    World.Alike old old' { w with contexts := cs } { w' with contexts := ds } :=
  ⟨hcs, h.host, h.log⟩

theorem modify (h : World.Alike old old' w w') (id : ContextId) {f : Context → Context}
    (hf : Context.Lawful f) : World.Alike old old' (w.modify id f) (w'.modify id f) :=
  h.of_contexts (h.contexts.modify id hf)

theorem push (h : World.Alike old old' w w') (record : LogRecord) :
    World.Alike old old' { w with log := w.log.push record } { w' with log := w'.log.push record } := by
  obtain ⟨lines, hw, hw'⟩ := h.log
  refine ⟨h.contexts, h.host, lines.push record, ?_, ?_⟩
  · dsimp only
    rw [hw, Array.append_push]
  · dsimp only
    rw [hw', Array.append_push]

end World.Alike

end CoachScript
