import CoachScript.Proofs.Pass.Reverting

/-!
# Evaluating anew replaces

* `Command.revertible`: the calls whose effects their question takes back when it is evaluated anew.
* `keeps_sameReverted`: what such a call does is gone once its question is reverted.
* **`runQuestion_replaces`**: so evaluating a question anew leaves no trace of how it was evaluated
  before.
-/

namespace CoachScript

open CoachScript.Action CoachScript.World

/-- The command writes a variable under the source of its call, unless a key says otherwise. -/
def Command.writesVariable : Command → Bool
  | .set | .append | .arrayAdd | .arrayRemove | .arrayClear => true
  | _ => false

/-- A call of the command, with a path and a number of arguments, does nothing but look, log,
contribute to scores, or write variables of its own context under its question. -/
def Command.revertible (command : Command) (path : Path) (count : Nat) : Bool :=
  match command with
  | .set | .append => path == .levels 0 && count != 3
  | .arrayAdd | .arrayRemove | .arrayClear => path == .levels 0
  | .setHidden | .setHiddenRange | .createBadge | .awardBadge | .revokeBadge
  | .addRecommendation | .removeRecommendation | .createSubcoach | .removeSubcoach => false
  | _ => true

/-- The call has a name that stands for no command, or for one that allows reverting it. -/
def Scene.revertible (scene : Scene) (path : Path) (name : String) (args : List Expr) : Bool :=
  match scene.commands.find? name with
  | none => true
  | some command => command.revertible path args.length

/-- The command writes a variable whose name reverting spares. -/
def Dispatch.writesSpared (keep : String) (d : Dispatch) : Bool :=
  d.command.writesVariable &&
    match d.call.text d.args 0 "name" with
    | .ok name => Variables.spared keep name
    | .error _ => false

namespace ContextView

variable {p : String → Option String → Bool} {q : String → Bool} {names : Bool} (c : Context)

theorem drop_pushScore (name : String) {source : String} (h : q source) (entry : ScoreEntry) :
    { c with scores := c.scores.push name source entry }.view.drop p q names = c.view.drop p q names := by
  rw [Context.view_pushScore]
  unfold drop
  congr 1
  funext other
  dsimp only
  split_ifs with hname
  · rw [← hname]
    exact (c.view.scores name).drop_push q h entry
  · rfl

theorem drop_setMemory {name : String} {source : Option String} (h : p name source) (v : Value) :
    { c with memory := c.memory.set name source v }.view.drop p q names = c.view.drop p q names := by
  rw [Context.view_setMemory]
  unfold drop
  congr 1
  funext other
  dsimp only
  split_ifs with hname
  · rw [← hname]
    exact (c.view.memory name).drop_put (p name) h v
  · rfl

end ContextView

/-! ### Single calls -/

section Calls

variable {scene : Scene} {keep : String} {path : Path} {name : String} {args : List Value}
  {w : World}

theorem sameReverted_contribute (score : String) (entry : ScoreEntry) :
    SameReverted scene keep
      (Builtin.contribute ⟨name, scene, w.contexts.resolve scene.active path⟩ score entry w).2 w :=
  sameReverted_modify _ fun c =>
    ContextView.drop_pushScore c score (takesEntry_source scene path name w) entry

/-- A write under the call's own source, in the evaluating context, of a name that is not spared. -/
theorem sameReverted_write (w : World) (call : Call) (htarget : call.target = call.scene.active)
    (key : String) (hkey : Variables.spared keep key = false) (v : Value) :
    SameReverted call.scene keep (Builtin.write call key (some (call.source w)) v w) w := by
  have hsource : call.source w = call.scene.question := if_pos htarget
  rw [hsource]
  refine sameReverted_modify call.target fun c => ContextView.drop_setMemory c ?_ v
  unfold Scene.takesWrite
  rw [htarget, hkey, beq_self_eq_true, beq_self_eq_true]
  rfl

theorem sameReverted_hasRecommendation (call : Call) :
    SameReverted scene keep (Builtin.reshelve call (fun rs => rs) w) w := by
  unfold Builtin.reshelve
  cases w.contexts.shelf call.scene.active with
  | own id => exact sameReverted_modify id fun c => rfl
  | bucket id tag =>
    refine sameReverted_modify id fun c => ?_
    rw [Context.view_updateBucket]
    unfold ContextView.drop
    congr 1
    funext other
    dsimp only
    split_ifs with h
    · rw [h]
    · rfl

section Steps

variable {α β : Type} {f : α → Action β}

theorem sameReverted_check {r : Except Fault α}
    (h : ∀ a, r = .ok a → SameReverted scene keep (f a w).2 w) :
    SameReverted scene keep (Action.bind (.check r) f w).2 w :=
  after_check (P := fun v => SameReverted scene keep v w) (.refl w) h

theorem sameReverted_look {g : World → Except Fault α}
    (h : ∀ a, g w = .ok a → SameReverted scene keep (f a w).2 w) :
    SameReverted scene keep (Action.bind (.look g) f w).2 w :=
  after_look (P := fun v => SameReverted scene keep v w) (.refl w) h

theorem sameReverted_ite {c : Prop} [Decidable c] {x y : Action α}
    (hx : SameReverted scene keep (x w).2 w) (hy : SameReverted scene keep (y w).2 w) :
    SameReverted scene keep ((if c then x else y) w).2 w :=
  after_ite (P := fun v => SameReverted scene keep v w) (fun _ => hx) fun _ => hy

end Steps

theorem writeKey_of_keyless {call : Call} (h : args.length ≠ 3) :
    Builtin.writeKey call args w = .ok (some (call.source w), 1) := if_neg h

theorem not_spared_of_text {command : Command} {call : Call} (hwrites : command.writesVariable)
    (h : ¬ Dispatch.writesSpared keep ⟨command, call, args⟩) {key : String}
    (hkey : call.text args 0 "name" = .ok key) : Variables.spared keep key = false := by
  unfold Dispatch.writesSpared at h
  simp only [hwrites, hkey, Bool.true_and] at h
  exact Bool.eq_false_iff.mpr h

/-- **What a revertible call does is gone once its question is reverted.** -/
theorem keeps_sameReverted (w₀ : World) :
    Keeps scene scene.revertible (fun d => ¬ d.writesSpared keep)
      (fun w => SameReverted scene keep w w₀) := by
  intro path name es command vs w hform hfind hchoose harity hlength hspared hw
  refine .trans ?_ hw
  unfold Scene.revertible at hform
  simp only [hfind] at hform
  unfold Dispatch.run Scene.dispatch at *
  dsimp only at *
  let call : Call := ⟨name, scene, w.contexts.resolve scene.active path⟩
  have hlocal : path == .levels 0 → call.target = call.scene.active := by
    intro hpath
    rw [beq_iff_eq] at hpath
    subst hpath
    rfl
  cases command with
  | setHidden | setHiddenRange | createBadge | awardBadge | revokeBadge | addRecommendation
  | removeRecommendation | createSubcoach | removeSubcoach => cases hform
  | choose => exact absurd rfl hchoose
  | addScore | capScore =>
    refine sameReverted_check fun score _ => sameReverted_check fun number _ => ?_
    exact sameReverted_contribute score _
  | set =>
    obtain ⟨hpath, hcount⟩ := (Bool.and_eq_true _ _).mp hform
    refine sameReverted_check fun key hkey => sameReverted_look fun source hsource => ?_
    rw [writeKey_of_keyless (by rw [hlength]; exact bne_iff_ne.mp hcount)] at hsource
    cases hsource
    exact sameReverted_write w call (hlocal hpath) key (not_spared_of_text rfl hspared hkey) _
  | append =>
    obtain ⟨hpath, hcount⟩ := (Bool.and_eq_true _ _).mp hform
    refine sameReverted_check fun key hkey => sameReverted_look fun source hsource => ?_
    rw [writeKey_of_keyless (by rw [hlength]; exact bne_iff_ne.mp hcount)] at hsource
    cases hsource
    refine sameReverted_check fun more _ => ?_
    exact sameReverted_write w call (hlocal hpath) key (not_spared_of_text rfl hspared hkey) _
  | arrayAdd =>
    refine sameReverted_check fun key hkey => sameReverted_check fun element _ => ?_
    have hwrite := sameReverted_write w call (hlocal hform) key (not_spared_of_text rfl hspared hkey)
    refine sameReverted_check fun unique _ => sameReverted_ite (.refl w) ?_
    exact sameReverted_ite (.refl w) (hwrite _)
  | arrayRemove =>
    refine sameReverted_check fun key hkey => sameReverted_check fun element _ => ?_
    have hwrite := sameReverted_write w call (hlocal hform) key (not_spared_of_text rfl hspared hkey)
    exact sameReverted_ite (hwrite _) (.refl w)
  | arrayClear =>
    refine sameReverted_check fun key hkey => ?_
    exact sameReverted_write w call (hlocal hform) key (not_spared_of_text rfl hspared hkey) _
  | hasRecommendation => exact sameReverted_check fun id _ => sameReverted_hasRecommendation _
  | log => exact sameReverted_of_view rfl rfl rfl rfl fun _ => rfl
  | _ => exact .refl w

end Calls

/-! ### Passes -/

variable {scene : Scene} {keep : String} {first : Listing}

theorem sameReverted_runQuestion (w : World) (hform : ∀ line ∈ first, line.every scene.revertible)
    (hspared : ∀ d ∈ passCalls scene first (w.revert scene keep), ¬ d.writesSpared keep) :
    SameReverted scene keep (runQuestion scene keep first w).2 w :=
  invariant_runLines (keeps_sameReverted w) (fun fired _ => (sameReverted_leave fired).trans) first _ hform
    hspared sameReverted_revert

/-- Alike worlds see the same become of any listing. -/
theorem runLines_alike (scene : Scene) (lines : Listing) {old old' : Array LogRecord}
    {w w' : World} (h : World.Alike old old' w w') :
    (runLines scene lines w).1 = (runLines scene lines w').1 ∧
      World.Alike old old' (runLines scene lines w).2 (runLines scene lines w').2 :=
  runLines_related (inStep_alike scene old old')
    (fun fired _ _ h => h.modify scene.active (Context.lawful_setFired fired)) lines
    (fun line _ => line.every_true) h

/-- **Evaluating anew replaces.** After a listing of revertible calls whose variables are not
spared, any listing reports, logs and leaves what it would have if the first had never run. -/
theorem runQuestion_replaces (scene : Scene) (keep : String) (first second : Listing) (w : World)
    (hform : ∀ line ∈ first, line.every scene.revertible)
    (hspared : ∀ d ∈ passCalls scene first (w.revert scene keep), ¬ d.writesSpared keep) :
    let between := (runQuestion scene keep first w).2
    let again := runQuestion scene keep second between
    let direct := runQuestion scene keep second w
    again.1 = direct.1 ∧ World.Alike between.log w.log again.2 direct.2 :=
  runLines_alike scene second (sameReverted_runQuestion w hform hspared).alike

/-- A line of an instance that contributes to its parent, writes, and then faults, run twice. -/
theorem runQuestion_replaces_faulting :
    let scene : Scene := ⟨1, .ofId "b", "q", .builtin⟩
    let listing : Listing := [⟨.value (.bool true), "",
      [.call (.levels 1) "addScore" [.value (.string "s"), .value (.integer "3")],
        .call (.levels 0) "append" [.value (.string "x"), .value (.string "more")],
        .call (.levels 0) "addScore" [.value (.string "s"), .value (.string "none")]]⟩]
    let w : World := ⟨.pair "a" "b" "c", ∅, #[]⟩
    (∀ line ∈ listing, line.every scene.revertible) ∧
      (∀ d ∈ passCalls scene listing (w.revert scene "_"), ¬ d.writesSpared "_") ∧
      let between := (runQuestion scene "_" listing w).2
      let again := runQuestion scene "_" listing between
      let direct := runQuestion scene "_" listing w
      again.1 = direct.1 ∧ World.Alike between.log w.log again.2 direct.2 :=
  ⟨by decide +kernel, by decide +kernel,
    runQuestion_replaces _ "_" _ _ _ (by decide +kernel) (by decide +kernel)⟩

end CoachScript
