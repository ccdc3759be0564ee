import CoachScript.Proofs.Builtin.Asking
import CoachScript.Proofs.Engine.Built
import CoachScript.Proofs.State.Keyed

/-!
# What the summary of an instance leaves out

A context below a parent keeps its recommendations in the parent's bucket, while its summary looks at what
it and the instances below it keep.

* `Contexts.summary_of`: a summary lists what the contexts on the ways down keep.
* **`Engine.Grown.keyed`**: grown engines keep recommendations under their ids.
* **`Engine.Grown.summary_has_iff`**: of a recommendation that a context has, its summary tells if and only
  if the context has no parent, or it or a context on a way down keeps one of that id; its parent's does.
-/

namespace CoachScript

namespace Contexts

variable {cs : Contexts}

/-- The summary of a stored context lists what the contexts on the ways down keep. -/
theorem summary_of (hnamed : cs.Named) (hlabelled : cs.Labelled) {key : String} {id : ContextId}
    (hid : cs.find? key = some id) :
    ∃ rs, cs.summary key = .ok rs ∧
      ∀ r, r ∈ rs ↔ ∃ other, cs.Leads (lowercase key) other ∧ r ∈ (cs.get other).kept := by
  have hgathers := gathers hnamed hlabelled cs.stored (lowercase key) fun _ _ => rfl
  refine ⟨sortRecommendations (cs.gather cs.stored (lowercase key)), ?_, fun r => ?_⟩
  · unfold summary contains
    rw [hid]
    rfl
  · unfold sortRecommendations
    rw [(List.mergeSort_perm _ _).mem_iff, hgathers.mem_iff]
    simp only [(Context.ownRecommendations_perm _).mem_iff]

/-- The context that keeps what is on a shelf. -/
def Shelf.owner : Shelf → ContextId
  | .own id | .bucket id _ => id

/-- What is on a shelf is kept by the shelf's owner. -/
theorem mem_kept_of_onShelf {s : Shelf} {r : Recommendation}
    (h : r ∈ (cs.onShelf s).table.values) : r ∈ (cs.get s.owner).kept := by
  unfold Context.kept
  rw [List.mem_append]
  cases s with
  | own id => exact .inl h
  | bucket id tag =>
    have hr : r ∈ ((cs.get id).bucket tag).table.values := h
    unfold Context.bucket at hr
    cases hbucket : (cs.get id).buckets[tag]? with
    | none =>
      rw [hbucket] at hr
      obtain ⟨other, hother⟩ := ByName.mem_values.mp hr
      cases hother
    | some rs =>
      rw [hbucket] at hr
      exact .inr (List.mem_flatMap.mpr ⟨rs, ByName.mem_values.mpr ⟨tag, hbucket⟩, hr⟩)

theorem Keyed.onShelf (h : cs.Keyed) (s : Shelf) : (cs.onShelf s).Keyed := by
  cases s with
  | own id => exact (h id).own
  | bucket id tag => exact (h id).bucket tag

end Contexts

/-- `hasRecommendation` is `TRUE` if and only if the shelf of the evaluating context contains the id. -/
theorem Command.hasRecommendation_iff {call : Call} {args : List Value} {id : String}
    (hid : call.text args 0 "id" = .ok id) (w : World) :
    (Command.hasRecommendation.run call args w).1 = .ok (.bool true) ↔
      (w.contexts.onShelf (w.contexts.shelf call.scene.active)).contains id = true := by
  -- Asking makes a bucket at most, and puts nothing into it.
  have hundisturbed : w.Undisturbed (Builtin.reshelve call (fun rs => rs) w) :=
    ⟨.updateShelf w.contexts _, rfl, rfl⟩
  have hrun : (Command.hasRecommendation.run call args w).1 =
      .ok (.bool ((Builtin.shelved call w).contains id)) := by
    unfold Command.run Builtin.hasRecommendation
    rw [hid, Action.check_bind_ok, hundisturbed.alike.shelved_eq call]
    rfl
  rw [hrun]
  exact ⟨fun h => Value.bool.inj (Except.ok.inj h), fun h => congrArg (Except.ok <| Value.bool ·) h⟩

namespace Engine

variable {engine engine' : Engine}

/-! ### Grown engines -/

/-- Evaluations keep recommendations under their ids. -/
theorem kept_keyed : Kept fun w => w.contexts.Keyed :=
  ⟨fun coachId h => h.obtain coachId, fun keep lines h _ => World.keyed_runQuestion h _ keep lines⟩

/-- Every step keeps recommendations under their ids. -/
theorem Rooted.keyed_step (hrooted : engine.Rooted) (h : engine.world.contexts.Keyed)
    (hstep : engine.Step engine') : engine'.world.contexts.Keyed := by
  cases hstep with
  | host | forget => exact h
  | question coachId question => exact kept_keyed.evaluateQuestion hrooted h coachId question
  | coach coachId => exact kept_keyed.evaluateCoach hrooted h coachId
  | subcoach key question => exact kept_keyed.evaluateInstance hrooted h key question
  | run scene text =>
    exact runText_of (P := fun w => w.contexts.Keyed) hrooted.sound.cache scene text h
      (World.keyed_runLines h scene)
  | rerun scene text =>
    exact rerunText_of (P := fun w => w.contexts.Keyed) hrooted.sound.cache scene text h
      (World.keyed_runQuestion h scene)
  | obtain coachId => exact h.obtain coachId
  | create hcreate => exact h.createInstance hcreate
  | remove parent coachId instanceId => exact h.removeInstance parent coachId instanceId
  | link hlink => exact h.link hlink
  | clear id => exact h.modify id fun c _ => .clear c
  | reset key => exact h.of_made rfl
  | resetAll => exact h.of_made rfl

/-- **In grown engines recommendations are kept under their ids.** -/
theorem Grown.keyed (h : engine.Grown) : engine.world.contexts.Keyed := by
  induction h with
  | start config commands host => exact .empty
  | step hgrown hstep ih => exact hgrown.rooted.keyed_step ih hstep.step

/-! ### Summaries -/

/-- The summary of a stored context tells of an id if and only if a context on a way down keeps a
recommendation of that id. -/
theorem Grown.summary_iff (h : engine.Grown) {key : String} {active : ContextId}
    (hactive : engine.world.contexts.find? key = some active) :
    ∃ rs, engine.summary key = .ok rs ∧ ∀ id, (∃ r ∈ rs, r.id = id) ↔
      ∃ other, engine.world.contexts.Leads (lowercase key) other ∧
        ∃ r ∈ (engine.world.get other).kept, r.id = id := by
  have henlisted := h.built.enlisted
  obtain ⟨rs, hsummary, hmem⟩ := Contexts.summary_of henlisted.named henlisted.labelled hactive
  refine ⟨rs, ?_, fun id => ?_⟩
  · unfold Engine.summary
    rw [hsummary]
    rfl
  · simp only [hmem]
    constructor
    · rintro ⟨r, ⟨other, hleads, hr⟩, hid⟩
      exact ⟨other, hleads, r, hr, hid⟩
    · rintro ⟨other, hleads, r, hr, hid⟩
      exact ⟨r, ⟨other, hleads, hr⟩, hid⟩

/-- **Of a recommendation that a stored context has, its summary tells if and only if the context has no
parent, or a context on a way down, itself included, keeps one of that id.** The summary of its parent tells
of it, where that is stored. -/
theorem Grown.summary_has_iff (h : engine.Grown) {key : String} {active : ContextId}
    (hactive : engine.world.contexts.find? key = some active) {call : Call} {args : List Value}
    {id : String} (hscene : call.scene.active = active) (hid : call.text args 0 "id" = .ok id)
    (hhas : (Command.hasRecommendation.run call args engine.world).1 = .ok (.bool true)) :
    ∃ rs, engine.summary key = .ok rs ∧
      ((∃ r ∈ rs, r.id = id) ↔ engine.world.contexts.parent? active = none ∨
        ∃ other, engine.world.contexts.Leads (lowercase key) other ∧
          ∃ r ∈ (engine.world.get other).kept, r.id = id) ∧
      ∀ parent parentKey, engine.world.contexts.parent? active = some parent →
        engine.world.contexts.find? parentKey = some parent →
          ∃ rs, engine.summary parentKey = .ok rs ∧ ∃ r ∈ rs, r.id = id := by
  obtain ⟨rs, hsummary, hiff⟩ := h.summary_iff hactive
  -- The context has the recommendation on its shelf, which is its own or one of its parent's.
  have hcontains : (engine.world.contexts.onShelf (engine.world.contexts.shelf active)).contains id := by
    rwa [Command.hasRecommendation_iff hid, hscene] at hhas
  obtain ⟨r, hr, hrid⟩ := (h.keyed.onShelf _).exists_of_contains hcontains
  have hkept := Contexts.mem_kept_of_onShelf hr
  refine ⟨rs, hsummary, ?_, fun parent parentKey hparent hkey => ?_⟩
  · rw [hiff, iff_or_self]
    intro hnone
    unfold Contexts.shelf at hkept
    rw [hnone] at hkept
    exact ⟨active, .here hactive, r, hkept, hrid⟩
  · unfold Contexts.shelf at hkept
    rw [hparent] at hkept
    obtain ⟨rs, hsummary, hiff⟩ := h.summary_iff hkey
    exact ⟨rs, hsummary, (hiff id).mpr ⟨parent, .here hkey, r, hkept, hrid⟩⟩

/-- A coach and an instance below it recommend something each. The summary of the coach has both, that of
the instance nothing. -/
theorem Grown.summary_has_iff_instance :
    let host := (∅ : Host).addCoach (.ofId "b")
    let before := (((Engine.start .standard .builtin host).withContexts (.pair "a" "b" "c")).rerunText
      ⟨0, .ofId "a", "q1", .builtin⟩
      "TRUE : : \x7b addRecommendation(\"r\", 1, \"t\", \"u\"); \x7d;").2
    let engine := (before.rerunText ⟨1, .ofId "b", "q1", .builtin⟩
      "TRUE : : \x7b addRecommendation(\"s\", 2, \"t\", \"u\"); \x7d;").2
    let call (active : ContextId) : Call :=
      ⟨"hasRecommendation", ⟨active, .ofId "a", "q2", .builtin⟩, active⟩
    let has (active : ContextId) (id : String) : Except Fault Value :=
      (Command.hasRecommendation.run (call active) [.string id] engine.world).1
    engine.Grown ∧ has 0 "r" = .ok (.bool true) ∧ has 1 "s" = .ok (.bool true) ∧
      ∃ rs below, engine.summary "a" = .ok rs ∧ engine.summary "a.b.c" = .ok below ∧
        (∃ r ∈ rs, r.id = "r") ∧ (∃ r ∈ rs, r.id = "s") ∧ ¬ ∃ r ∈ below, r.id = "s" := by
  intro host before engine call has
  have hbefore : before.Grown := .step (grown_pair _ _ _ _ _ _) (.rerun (by decide +kernel) _)
  have hgrown : engine.Grown := .step hbefore (.rerun (by decide +kernel) _)
  obtain ⟨hcoach, hinstance, hcontains, hcontains'⟩ :
      engine.world.contexts.find? "a" = some 0 ∧ engine.world.contexts.find? "a.b.c" = some 1 ∧
        (engine.world.contexts.onShelf (engine.world.contexts.shelf 0)).contains "r" = true ∧
        (engine.world.contexts.onShelf (engine.world.contexts.shelf 1)).contains "s" = true := by
    decide +kernel
  have hid (active : ContextId) (id : String) : (call active).text [.string id] 0 "id" = .ok id := rfl
  have hr : has 0 "r" = .ok (.bool true) := (Command.hasRecommendation_iff (hid 0 "r") _).mpr hcontains
  have hs : has 1 "s" = .ok (.bool true) := (Command.hasRecommendation_iff (hid 1 "s") _).mpr hcontains'
  obtain ⟨hnone, hsome, hkept, hhandles⟩ :
      engine.world.contexts.parent? 0 = none ∧ engine.world.contexts.parent? 1 = some 0 ∧
        (engine.world.get 1).kept = [] ∧ (engine.world.contexts.get 1).sortedHandles = [] := by
    decide +kernel
  obtain ⟨rs, hrs, hiff, -⟩ := hgrown.summary_has_iff hcoach rfl (hid 0 "r") hr
  obtain ⟨below, hbelow, hiff', hparent⟩ := hgrown.summary_has_iff hinstance rfl (hid 1 "s") hs
  obtain ⟨rs', hrs', hmem⟩ := hparent 0 "a" hsome hcoach
  cases hrs.symm.trans hrs'
  refine ⟨hgrown, hr, hs, rs, below, hrs, hbelow, hiff.mpr (.inl hnone), hmem, fun hlisted => ?_⟩
  rcases hiff'.mp hlisted with htop | ⟨other, hleads, r, hother, -⟩
  · cases hsome.symm.trans htop
  · -- The instance has no instances, so no way leads further down.
    cases hleads with
    | here hid =>
      cases hinstance.symm.trans hid
      rw [hkept] at hother
      cases hother
    | down hid hhandle =>
      cases hinstance.symm.trans hid
      rw [hhandles] at hhandle
      cases hhandle

end Engine

end CoachScript
