import CoachScript.Proofs.Builtin.Alike

/-!
# Asking changes nothing

* `Command.asks`, `Expr.asks`: the commands that only ask, and the expressions of them alone.
* `World.Undisturbed`: nothing of a world has changed, except that a context may keep an empty bucket for
  recommendations where it kept none.
* `World.Undisturbed.evaluate_eq`: in such a world every expression has the value that it had.
* `undisturbed_runLine`: a line whose condition only asks leaves no trace unless it starts.
* **`evaluate_asking`**: asking leaves the world undisturbed, so that asking again gives the same.
-/

namespace CoachScript

/-! ### Questions -/

/-- The command only asks. -/
def Command.asks : Command → Bool
  | .all | .any | .negate | .choose | .equals | .compare _ | .concat | .getScore | .get | .isSelected
  | .isAnswered | .isHidden | .arrayLength | .arrayContains | .arrayGet | .hasBadge | .getBadge
  | .hasRecommendation | .getParentArgument | .getSubcoachVariable | .getMetadata | .hasHandler => true
  | _ => false

/-- Every command that the expression calls only asks. -/
def Expr.asks (commands : CommandTable) (e : Expr) : Bool :=
  e.every fun _ name _ => (commands.find? name).all Command.asks

/-! ### Undisturbed worlds -/

/-- The contexts are the same, but for empty buckets. -/
structure Context.Undisturbed (c d : Context) : Prop where
  rest : { c with buckets := d.buckets } = d
  bucket : ∀ tag, c.bucket tag = d.bucket tag

/-- The contexts of two trees are the same, but for empty buckets, and all else is the same. -/
structure Contexts.Undisturbed (cs ds : Contexts) : Prop where
  size : cs.made.size = ds.made.size
  lineage : cs.lineage = ds.lineage
  stored : cs.stored = ds.stored
  get : ∀ id, (cs.get id).Undisturbed (ds.get id)

/-- The worlds are the same, but for empty buckets. -/
structure World.Undisturbed (w w' : World) : Prop where
  contexts : w.contexts.Undisturbed w'.contexts
  host : w.host = w'.host
  log : w.log = w'.log

namespace Context.Undisturbed

variable {c d e : Context}

theorem refl (c : Context) : c.Undisturbed c := ⟨rfl, fun _ => rfl⟩

theorem trans (h : c.Undisturbed d) (h' : d.Undisturbed e) : c.Undisturbed e where
  rest := by
    rw [← h'.rest, ← h.rest]
  bucket tag := (h.bucket tag).trans (h'.bucket tag)

theorem view (h : c.Undisturbed d) : c.view = d.view := by
  have hbuckets : c.bucket = d.bucket := funext h.bucket
  rw [← h.rest] at hbuckets ⊢
  unfold Context.view
  rw [hbuckets]

/-- To ask for a bucket makes it, but puts nothing into it. -/
theorem updateBucket (c : Context) (tag : String) :
    c.Undisturbed (c.updateBucket tag fun rs => rs) where
  rest := rfl
  bucket other := by
    rw [bucket_updateBucket]
    split_ifs with h
    · rw [h]
    · rfl

end Context.Undisturbed

namespace Contexts.Undisturbed

variable {cs ds es : Contexts}

theorem refl (cs : Contexts) : cs.Undisturbed cs := ⟨rfl, rfl, rfl, fun _ => .refl _⟩

theorem trans (h : cs.Undisturbed ds) (h' : ds.Undisturbed es) : cs.Undisturbed es :=
  ⟨h.size.trans h'.size, h.lineage.trans h'.lineage, h.stored.trans h'.stored,
    fun id => (h.get id).trans (h'.get id)⟩

theorem alike (h : cs.Undisturbed ds) : cs.Alike ds :=
  ⟨h.size, h.lineage, h.stored, fun id => (h.get id).view⟩

theorem modify (cs : Contexts) (id : ContextId) {f : Context → Context}
    (hf : ∀ c : Context, c.Undisturbed (f c)) : cs.Undisturbed (cs.modify id f) where
  size := (size_modify ..).symm
  lineage := rfl
  stored := rfl
  get other := by
    rw [get_modify]
    split_ifs with hid
    · rw [hid.1]
      exact hf _
    · exact .refl _

/-- To look at a shelf leaves it as it is. -/
theorem updateShelf (cs : Contexts) (s : Shelf) :
    cs.Undisturbed (cs.updateShelf (fun rs => rs) s) := by
  cases s with
  | own id => exact .modify cs id fun c => .refl c
  | bucket id tag => exact .modify cs id fun c => .updateBucket c tag

end Contexts.Undisturbed

namespace World.Undisturbed

variable {w w' w'' : World}

theorem refl (w : World) : w.Undisturbed w := ⟨.refl _, rfl, rfl⟩

theorem trans (h : w.Undisturbed w') (h' : w'.Undisturbed w'') : w.Undisturbed w'' :=
  ⟨h.contexts.trans h'.contexts, h.host.trans h'.host, h.log.trans h'.log⟩

theorem alike (h : w.Undisturbed w') : World.Alike w.log w'.log w w' :=
  ⟨h.contexts.alike, h.host, #[], (Array.append_empty).symm, (Array.append_empty).symm⟩

/-- **In an undisturbed world every expression has the value that it had.** -/
theorem evaluate_eq (h : w.Undisturbed w') (scene : Scene) (e : Expr) :
    (evaluate scene e w').1 = (evaluate scene e w).1 :=
  (evaluate_related (inStep_alike scene w.log w'.log) e e.every_true w w' h.alike).1.symm

end World.Undisturbed

/-! ### Asking -/

/-- Only asking for a recommendation leaves any trace at all. -/
theorem Command.undisturbed_run {command : Command} (h : command.asks) (call : Call)
    (args : List Value) (w : World) : w.Undisturbed (command.run call args w).2 := by
  cases command with
  | hasRecommendation =>
    exact Action.after_check (P := w.Undisturbed) (.refl w) fun id _ => ⟨.updateShelf _ _, rfl, rfl⟩
  | addScore | capScore | set | append | setHidden | setHiddenRange | arrayAdd | arrayRemove | arrayClear
  | createBadge | awardBadge | revokeBadge | addRecommendation | removeRecommendation | createSubcoach
  | removeSubcoach | log => cases h
  | _ => exact .refl w

/-- What was undisturbed before a call that asks, is so after it. -/
theorem keeps_undisturbed (scene : Scene) (w : World) :
    Keeps scene (fun _ name _ => (scene.commands.find? name).all Command.asks) (fun _ => True)
      w.Undisturbed := by
  intro path name args command vs w' hasks hname _ _ _ _ hw
  dsimp only at hasks
  rw [hname] at hasks
  exact hw.trans (Command.undisturbed_run hasks _ vs w')

/-- A line that does not start leaves no trace if its condition only asks. -/
theorem undisturbed_runLine (scene : Scene) (fired : Fired) (line : Line) (w : World)
    (h : line.condition.asks scene.commands)
    (hskipped : (runLine scene fired line w).1.started = false) :
    w.Undisturbed (runLine scene fired line w).2 := by
  have hw := invariant_evaluateTruth (keeps_undisturbed scene w) line.condition w h
    (fun _ _ => trivial) (.refl w)
  unfold runLine at hskipped ⊢
  rcases hc : evaluateTruth scene line.condition w with ⟨f | holds, w₁⟩
  · rwa [hc] at hw
  · rw [hc] at hw hskipped
    dsimp only at hskipped ⊢
    split_ifs at hskipped ⊢ with hstarts
    · rcases hs : evaluateAll scene line.statements w₁ with ⟨f | vs, w₂⟩
      all_goals
        rw [hs] at hskipped
        cases hskipped
    · exact hw

/-- **Asking changes nothing.** An expression of commands that only ask leaves everything as it was,
with or without a fault, but for empty buckets. Evaluated again, it has the same value or the same fault. -/
theorem evaluate_asking (scene : Scene) (e : Expr) (h : e.asks scene.commands) (w : World) :
    let w' := (evaluate scene e w).2
    w.Undisturbed w' ∧ (evaluate scene e w').1 = (evaluate scene e w).1 := by
  have hw := invariant_evaluate (keeps_undisturbed scene w) e w h (fun _ _ => trivial) (.refl w)
  exact ⟨hw, hw.evaluate_eq scene e⟩

/-- An instance asks for a recommendation that is not there, and has a bucket from then on. -/
theorem evaluate_asking_bucket :
    let w : World := ⟨.pair "a" "b" "c", ∅, #[]⟩
    let scene : Scene := ⟨1, .ofId "b", "q1", .builtin⟩
    let e : Expr :=
      .call (.levels 0) "not" [.call .root "hasRecommendation" [.value (.string "r")]]
    let w' := (evaluate scene e w).2
    e.asks scene.commands ∧ (evaluate scene e w).1 = .ok (.bool true) ∧
      (w.get 0).buckets.keys = [] ∧ (w'.get 0).buckets.keys = ["b.c"] ∧
      w.Undisturbed w' ∧ (evaluate scene e w').1 = .ok (.bool true) := by
  intro w scene e w'
  have hasks : e.asks scene.commands := by decide +kernel
  have hvalue : (evaluate scene e w).1 = .ok (.bool true) := by
    dsimp only [w, scene, e]
    rfl
  obtain ⟨hundisturbed, hagain⟩ := evaluate_asking scene e hasks w
  exact ⟨hasks, hvalue, by decide +kernel, by decide +kernel, hundisturbed, hagain.trans hvalue⟩

end CoachScript
