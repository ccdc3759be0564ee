import CoachScript.Proofs.Eval.Congruence
import CoachScript.Proofs.State.View

/-!
# Recommendations stay where the evaluating context keeps them

* `Expr.homed`, `Line.homed`: a script whose calls on recommendations have lost their paths. Two
  scripts differ in these paths alone if they are the same then.
* `Fault.unquoted`, `PassReport.unquoted`: a report without the script texts that it quotes.
* **`evaluate_homed`, `runLines_homed`**: the paths make no difference to what is evaluated; a report
  only quotes them.
* `World.OnlyBucket`, `World.OnlyOwn`: nothing changes but the recommendations in one bucket, or
  those of one context itself.
* **`advice_homed`**: so it is for every listing, and for every command on recommendations.
-/

namespace CoachScript

/-- The command is about recommendations. -/
def Command.advises : Command → Bool
  | .addRecommendation | .removeRecommendation | .hasRecommendation => true
  | _ => false

/-- The name stands for a command about recommendations. -/
def CommandTable.advises (t : CommandTable) (name : String) : Bool :=
  (t.find? name).any Command.advises

/-! ### Scripts without the paths -/

section Homed

variable (t : CommandTable)

mutual

/-- The expression with its calls on recommendations in the active context. -/
def Expr.homed : Expr → Expr
  | .value v => .value v
  | .call path name args => .call (if t.advises name then .levels 0 else path) name (homedAll args)

/-- The expressions with their calls on recommendations in the active context. -/
def Expr.homedAll : List Expr → List Expr
  | [] => []
  | e :: es => e.homed :: homedAll es

end

/-- The line with its calls on recommendations in the active context. -/
def Line.homed (line : Line) : Line :=
  ⟨line.condition.homed t, line.name, Expr.homedAll t line.statements⟩

theorem Expr.length_homedAll (es : List Expr) : (Expr.homedAll t es).length = es.length := by
  induction es with
  | nil => rfl
  | cons e es ih => exact congrArg (· + 1) ih

end Homed

/-! ### Reports without the texts -/

/-- The fault without the text of the condition that it quotes. -/
def Fault.unquoted : Fault → Fault
  | .notBoolean _ found => .notBoolean "" found
  | e => e

/-- The line's fault without the texts that it quotes. -/
def LineFault.unquoted (f : LineFault) : LineFault := { f with line := "", cause := f.cause.unquoted }

/-- The report without the texts that its faults quote. -/
def PassReport.unquoted (r : PassReport) : PassReport := ⟨r.executed, r.faults.map LineFault.unquoted⟩

/-- What became of a line, without the text that its fault quotes. -/
def LineOutcome.unquoted : LineOutcome → LineOutcome
  | .faulted started cause => .faulted started cause.unquoted
  | outcome => outcome

theorem PassReport.unquoted_append (r s : PassReport) :
    (r.append s).unquoted = r.unquoted.append s.unquoted :=
  congrArg (PassReport.mk _) List.map_append

theorem LineOutcome.started_unquoted (outcome : LineOutcome) :
    outcome.unquoted.started = outcome.started := by
  cases outcome <;> rfl

theorem unquoted_lineReport (scene : Scene) (index : Nat) (line : Line) (outcome : LineOutcome) :
    (lineReport scene index line outcome).unquoted =
      ⟨outcome.unquoted.started.toNat, outcome.unquoted.fault?.toList.map fun cause =>
        ⟨scene.question, index, "", cause⟩⟩ := by
  cases outcome <;> rfl

/-! ### Evaluation -/

/-- Commands about recommendations do not look at the context that they act on. -/
theorem Command.run_target {command : Command} (h : command.advises) (name : String) (scene : Scene)
    (target target' : ContextId) (args : List Value) :
    command.run ⟨name, scene, target⟩ args = command.run ⟨name, scene, target'⟩ args := by
  cases command with
  | addRecommendation | removeRecommendation | hasRecommendation => rfl
  | _ => cases h

section Evaluate

variable (scene : Scene)

mutual

/-- **The paths of calls on recommendations make no difference to a value.** -/
theorem evaluate_homed : ∀ e : Expr, evaluate scene (e.homed scene.commands) = evaluate scene e
  | .value _ => rfl
  | .call path name args => by
    unfold Expr.homed evaluate
    rw [Expr.length_homedAll, evaluateChoice_homed args, evaluateAll_homed args]
    cases hfind : scene.commands.find? name with
    | none => rfl
    | some command =>
      have hadvises : scene.commands.advises name = command.advises := by
        unfold CommandTable.advises
        rw [hfind]
        rfl
      rw [hadvises]
      dsimp only
      split_ifs with harity hchoose h
      · rfl
      · have hrun (vs : List Value) (w : World) :
            command.run ⟨name, scene, w.contexts.resolve scene.active (.levels 0)⟩ vs w =
              command.run ⟨name, scene, w.contexts.resolve scene.active path⟩ vs w := by
          rw [Command.run_target h]
        simp only [hrun]
      · rfl
      · rfl

theorem evaluateAll_homed : ∀ es : List Expr,
    evaluateAll scene (Expr.homedAll scene.commands es) = evaluateAll scene es
  | [] => rfl
  | e :: es => by
    unfold Expr.homedAll evaluateAll
    rw [evaluate_homed e, evaluateAll_homed es]

theorem evaluateChoice_homed : ∀ es : List Expr,
    evaluateChoice scene (Expr.homedAll scene.commands es) = evaluateChoice scene es
  | [] => rfl
  | condition :: branches => by
    unfold Expr.homedAll evaluateChoice
    rw [evaluate_homed condition]
    simp only [evaluateAt_homed _ branches]

theorem evaluateAt_homed : ∀ n (es : List Expr),
    evaluateAt scene n (Expr.homedAll scene.commands es) = evaluateAt scene n es
  | n, [] => by cases n <;> rfl
  | 0, e :: _ => evaluate_homed e
  | n + 1, _ :: es => evaluateAt_homed n es

end

/-- The fault of a condition that is none quotes the condition; all else is the same. -/
theorem evaluateTruth_homed (e : Expr) (w : World) :
    (evaluateTruth scene (e.homed scene.commands) w).1.mapError Fault.unquoted =
        (evaluateTruth scene e w).1.mapError Fault.unquoted ∧
      (evaluateTruth scene (e.homed scene.commands) w).2 = (evaluateTruth scene e w).2 := by
  unfold evaluateTruth Action.bind
  rw [evaluate_homed]
  rcases evaluate scene e w with ⟨fault | v, w'⟩
  · exact ⟨rfl, rfl⟩
  · unfold Action.look truth
    dsimp only
    cases v.bool? <;> exact ⟨rfl, rfl⟩

theorem runLine_homed (fired : Fired) (line : Line) (w : World) :
    (runLine scene fired (line.homed scene.commands) w).1.unquoted =
        (runLine scene fired line w).1.unquoted ∧
      (runLine scene fired (line.homed scene.commands) w).2 = (runLine scene fired line w).2 := by
  obtain ⟨hvalue, hworld⟩ := evaluateTruth_homed scene line.condition w
  unfold runLine Line.homed
  dsimp only
  rw [evaluateAll_homed]
  generalize evaluateTruth scene (line.condition.homed scene.commands) w = x at hvalue hworld ⊢
  generalize evaluateTruth scene line.condition w = y at hvalue hworld ⊢
  obtain ⟨e | holds, w'⟩ := x <;> obtain ⟨e' | holds', w''⟩ := y <;> obtain rfl : w' = w'' := hworld
  · have hfault : e.unquoted = e'.unquoted := Except.error.inj hvalue
    exact ⟨congrArg (LineOutcome.faulted false) hfault, rfl⟩
  · cases hvalue
  · cases hvalue
  · obtain rfl : holds = holds' := Except.ok.inj hvalue
    exact ⟨rfl, rfl⟩

/-- Line by line, by induction on those that are left. -/
theorem runFrom_homed (lines : Listing) : ∀ index fired w,
    (runFrom scene index fired (lines.map (Line.homed scene.commands)) w).1.unquoted =
        (runFrom scene index fired lines w).1.unquoted ∧
      (runFrom scene index fired (lines.map (Line.homed scene.commands)) w).2 =
        (runFrom scene index fired lines w).2 := by
  induction lines with
  | nil => exact fun _ _ _ => ⟨rfl, rfl⟩
  | cons line more ih =>
    intro index fired w
    obtain ⟨houtcome, hworld⟩ := runLine_homed scene fired line w
    have hstarted : (runLine scene fired (line.homed scene.commands) w).1.started =
        (runLine scene fired line w).1.started := by
      rw [← LineOutcome.started_unquoted, houtcome, LineOutcome.started_unquoted]
    rw [List.map_cons]
    unfold runFrom
    dsimp only
    rw [hstarted, hworld, PassReport.unquoted_append, PassReport.unquoted_append,
      unquoted_lineReport, unquoted_lineReport, houtcome]
    obtain ⟨hreport, hfinal⟩ := ih (index + 1)
      (if (runLine scene fired line w).1.started then fired.fire line.name else fired)
      (runLine scene fired line w).2
    exact ⟨congrArg _ hreport, hfinal⟩

/-- **The paths of calls on recommendations make no difference to a pass**, but for the texts in its
report. -/
theorem runLines_homed {lines lines' : Listing}
    (h : lines.map (Line.homed scene.commands) = lines'.map (Line.homed scene.commands)) (w : World) :
    (runLines scene lines w).1.unquoted = (runLines scene lines' w).1.unquoted ∧
      (runLines scene lines w).2 = (runLines scene lines' w).2 := by
  obtain ⟨hreport, hrest⟩ := runFrom_homed scene lines 0 ∅ w
  obtain ⟨hreport', hrest'⟩ := runFrom_homed scene lines' 0 ∅ w
  rw [h] at hreport hrest
  have hleft := congrArg (fun r : Fired × World => r.2.leave scene.active r.1) (hrest.symm.trans hrest')
  exact ⟨hreport.symm.trans hreport', hleft⟩

end Evaluate

/-! ### What the commands change -/

namespace World

/-- The worlds differ in nothing but the contexts' recommendations. -/
structure OnlyAdvice (w w' : World) : Prop where
  host : w'.host = w.host
  log : w'.log = w.log
  size : w'.contexts.made.size = w.contexts.made.size
  lineage : w'.contexts.lineage = w.contexts.lineage
  stored : w'.contexts.stored = w.contexts.stored
  context : ∀ id, ∃ recommendations buckets,
    w'.get id = { w.get id with recommendations, buckets }

/-- Nothing changes but the bucket that a context keeps for a tag. -/
structure OnlyBucket (parent : ContextId) (tag : String) (w w' : World) : Prop where
  advice : OnlyAdvice w w'
  own : ∀ id, (w'.get id).recommendations = (w.get id).recommendations
  buckets : ∀ id (other : String), id ≠ parent ∨ other ≠ tag →
    (w'.get id).buckets[other]? = (w.get id).buckets[other]?

/-- Nothing changes but the recommendations that a context keeps for itself. -/
structure OnlyOwn (active : ContextId) (w w' : World) : Prop where
  advice : OnlyAdvice w w'
  own : ∀ id, id ≠ active → (w'.get id).recommendations = (w.get id).recommendations
  buckets : ∀ id, (w'.get id).buckets = (w.get id).buckets

/-- Nothing changes but the recommendations on a shelf. -/
def OnlyShelf : Contexts.Shelf → World → World → Prop
  | .own id => OnlyOwn id
  | .bucket id tag => OnlyBucket id tag

variable (w : World)

theorem OnlyAdvice.refl : OnlyAdvice w w := ⟨rfl, rfl, rfl, rfl, rfl, fun _ => ⟨_, _, rfl⟩⟩

theorem OnlyShelf.refl (s : Contexts.Shelf) : OnlyShelf s w w := by
  cases s with
  | own id => exact ⟨.refl w, fun _ _ => rfl, fun _ => rfl⟩
  | bucket id tag => exact ⟨.refl w, fun _ => rfl, fun _ _ _ => rfl⟩

/-- Changing one context's recommendations changes nothing else. -/
theorem OnlyAdvice.modify (id : ContextId) {f : Context → Context}
    (hf : ∀ c, ∃ recommendations buckets, f c = { c with recommendations, buckets }) :
    OnlyAdvice w (w.modify id f) := by
  refine ⟨rfl, rfl, Contexts.size_modify _ _ _, rfl, rfl, fun other => ?_⟩
  unfold World.get World.modify
  dsimp only
  rw [Contexts.get_modify]
  split_ifs with hother
  · rw [hother.1]
    exact hf _
  · exact ⟨_, _, rfl⟩

/-- Changing what is on a shelf changes nothing else. -/
theorem OnlyShelf.update (f : Recommendations → Recommendations) (s : Contexts.Shelf) :
    OnlyShelf s w { w with contexts := w.contexts.updateShelf f s } := by
  cases s with
  | own id =>
    refine ⟨OnlyAdvice.modify w id fun c => ⟨_, _, rfl⟩, fun other hother => ?_, fun other => ?_⟩
    · exact congrArg _ ((w.contexts.get_modify id other _).trans (if_neg fun h => hother h.1))
    · refine (congrArg Context.buckets (w.contexts.get_modify id other _)).trans ?_
      split_ifs with hid
      · rw [hid.1]
        rfl
      · rfl
  | bucket id tag =>
    refine ⟨OnlyAdvice.modify w id fun c => ⟨_, _, rfl⟩, fun other => ?_, fun other tag' hne => ?_⟩
    · refine (congrArg Context.recommendations (w.contexts.get_modify id other _)).trans ?_
      split_ifs with hid
      · rw [hid.1]
        rfl
      · rfl
    · refine (congrArg (·.buckets[tag']?) (w.contexts.get_modify id other _)).trans ?_
      split_ifs with hid
      · have htag : tag ≠ tag' := Ne.symm (hne.resolve_left fun h => h hid.1)
        refine (ByName.getElem?_update _ tag tag' ∅ f).trans ?_
        rw [if_neg htag, hid.1]
        rfl
      · rfl

end World

/-- **A command about recommendations changes at most what is on the shelf of the evaluating
context.** -/
theorem Command.onlyShelf_run {command : Command} (h : command.advises) (call : Call)
    (args : List Value) (w : World) :
    World.OnlyShelf (w.contexts.shelf call.scene.active) w (command.run call args w).2 := by
  have hnone := World.OnlyShelf.refl w (w.contexts.shelf call.scene.active)
  have hsome (f : Recommendations → Recommendations) :
      World.OnlyShelf (w.contexts.shelf call.scene.active) w (Builtin.reshelve call f w) :=
    .update w f _
  cases command with
  | addRecommendation =>
    refine Action.after_check hnone fun id _ => Action.after_check hnone fun order _ => ?_
    refine Action.after_check hnone fun title _ => Action.after_check hnone fun text _ => ?_
    exact Action.after_check hnone fun tags _ => hsome _
  | removeRecommendation | hasRecommendation => exact Action.after_check hnone fun id _ => hsome _
  | _ => cases h

/-! ### Listings -/

/-- **Recommendations ignore paths, and stay with the evaluating context.** Listings that differ only
in the paths of their calls on recommendations do the same, in a pass and in an evaluation anew,
but for the texts that their reports quote. Whatever it is called with, a command about recommendations
changes below a parent only the bucket that the parent keeps for the evaluating context's tag, and in
a context without a parent only what that keeps for itself. -/
theorem advice_homed (scene : Scene) {lines lines' : Listing}
    (h : lines.map (Line.homed scene.commands) = lines'.map (Line.homed scene.commands)) :
    (∀ w, (runLines scene lines w).1.unquoted = (runLines scene lines' w).1.unquoted ∧
      (runLines scene lines w).2 = (runLines scene lines' w).2) ∧
    (∀ keep w, (runQuestion scene keep lines w).1.unquoted =
        (runQuestion scene keep lines' w).1.unquoted ∧
      (runQuestion scene keep lines w).2 = (runQuestion scene keep lines' w).2) ∧
    ∀ command : Command, command.advises → ∀ (call : Call) (args : List Value) (w : World),
      let active := call.scene.active
      let w' := (command.run call args w).2
      (∀ parent, w.contexts.parent? active = some parent →
        w.OnlyBucket parent ((w.get active).tag.getD (w.get active).name) w') ∧
      (w.contexts.parent? active = none → w.OnlyOwn active w') := by
  refine ⟨runLines_homed scene h, fun keep w => runLines_homed scene h (w.revert scene keep),
    fun command hadvises call args w => ?_⟩
  have hshelf := Command.onlyShelf_run hadvises call args w
  unfold Contexts.shelf at hshelf
  refine ⟨fun parent hparent => ?_, fun hparent => ?_⟩
  · rw [hparent] at hshelf
    exact hshelf
  · rw [hparent] at hshelf
    exact hshelf

/-- An instance recommends by way of the root, and by way of its parent; where a condition is none,
the two listings are told apart by what the report quotes. -/
theorem advice_homed_instance :
    let w : World := ⟨.pair "a" "b" "c", ∅, #[]⟩
    let scene : Scene := ⟨1, .ofId "b", "q1", .builtin⟩
    let listing (p q : Path) : Listing := [
      ⟨.value (.bool true), "", [.call p "addRecommendation" [.value (.string "r"),
        .value (.ofInt 1), .value (.string "Rest"), .value (.string "Sleep.")]]⟩,
      ⟨.call .root "concat" [.call q "hasRecommendation" [.value (.string "r")]], "", []⟩]
    let lines := listing .root (.levels 1)
    let lines' := listing (.levels 0) .root
    lines.map (Line.homed scene.commands) = lines'.map (Line.homed scene.commands) ∧
      (runLines scene lines w).1.unquoted = (runLines scene lines' w).1.unquoted ∧
      (runLines scene lines w).1 ≠ (runLines scene lines' w).1 ∧
      (runLines scene lines w).2 = (runLines scene lines' w).2 ∧
      ((runLines scene lines w).2.get 0).buckets.keys = ["b.c"] ∧
      ((runLines scene lines w).2.get 0).recommendations = ∅ ∧
      ((runLines scene lines w).2.get 1).recommendations = ∅ := by
  intro w scene listing lines lines'
  have hsame : lines.map (Line.homed scene.commands) = lines'.map (Line.homed scene.commands) := by
    decide +kernel
  obtain ⟨hreport, hworld⟩ := (advice_homed scene hsame).1 w
  exact ⟨hsame, hreport, by decide +kernel, hworld, by decide +kernel, by decide +kernel,
    by decide +kernel⟩

end CoachScript
