import CoachScript.Proofs.Eval.Agreement
import CoachScript.Proofs.Eval.Calls
import CoachScript.Proofs.State.View

/-!
# Commands that fault change nothing

A step is atomic if its faults leave the world as it was. A command is, if it takes its steps in a
good order: first those that read (`Reads`), which may fault, and then those that write, which must not
(`Sure`).

* `Action.Atomic`, `OpenAction.Atomic`: atomic steps, also where variables may hold calls.
* `Action.Reads.bind`, `Action.Atomic.bind`: what may follow a step that reads, and an atomic one.
* `Command.run_atomic`: every command is atomic, but for the creation and the removal of instances.
* **`evaluate_atomic`**: so is a call of such a command with literal arguments, whichever they are.
-/

namespace CoachScript

/-! ### Atomic steps -/

namespace Action

variable {α β : Type}

/-- A fault of the step leaves the world as it was. -/
def Atomic (x : Action α) : Prop := ∀ w e w', x w = (.error e, w') → w' = w

/-- The step leaves the world as it is. -/
def Reads (x : Action α) : Prop := ∀ w, (x w).2 = w

/-- The step does not fault. -/
def Sure (x : Action α) : Prop := ∀ w e w', x w ≠ (.error e, w')

theorem reads_pure (a : α) : Reads (.pure a) := fun _ => rfl

theorem reads_fail (e : Fault) : Reads (α := α) (.fail e) := fun _ => rfl

theorem reads_check (r : Except Fault α) : Reads (.check r) := fun _ => rfl

theorem reads_look (f : World → Except Fault α) : Reads (.look f) := fun _ => rfl

theorem reads_view (f : World → α) : Reads (.view f) := fun _ => rfl

theorem sure_pure (a : α) : Sure (.pure a) := nofun

theorem sure_view (f : World → α) : Sure (.view f) := nofun

theorem sure_modify (f : World → World) : Sure (.modify f) := nofun

variable {x : Action α} {k : α → Action β}

theorem Sure.bind (hx : x.Sure) (hk : ∀ a, (k a).Sure) : Sure (x >>= k) := by
  intro w e w' h
  rcases hrun : x w with ⟨e' | a, w₁⟩
  · exact hx w e' w₁ hrun
  · exact hk a w₁ e w' ((bind_of_ok hrun).symm.trans h)

theorem Sure.atomic (hx : x.Sure) : x.Atomic := fun w e w' h => absurd h (hx w e w')

theorem Reads.atomic (hx : x.Reads) : x.Atomic := by
  intro w e w' h
  rw [← hx w, h]

/-- What follows a step that reads finds the world as it was. -/
theorem Reads.bind (hx : x.Reads) (hk : ∀ a, (k a).Atomic) : Atomic (x >>= k) := by
  intro w e w' h
  have hsame := hx w
  rcases hrun : x w with ⟨e' | a, w₁⟩ <;> rw [hrun] at hsame <;> obtain rfl : w₁ = w := hsame
  · exact congrArg Prod.snd (h.symm.trans (bind_of_error hrun))
  · exact hk a w₁ e w' ((bind_of_ok hrun).symm.trans h)

/-- What follows a step that may have written must not fault. -/
theorem Atomic.bind (hx : x.Atomic) (hk : ∀ a, (k a).Sure) : Atomic (x >>= k) := by
  intro w e w' h
  rcases hrun : x w with ⟨e' | a, w₁⟩
  · obtain rfl : w₁ = w' := congrArg Prod.snd ((bind_of_error hrun).symm.trans h)
    exact hx w e' w₁ hrun
  · exact absurd ((bind_of_ok hrun).symm.trans h) (hk a w₁ e w')

/-- A write, and then the value. -/
theorem atomic_modify (f : World → World) (a : α) : Atomic (.modify f >>= fun _ => .pure a) :=
  ((sure_modify f).bind fun _ => sure_pure a).atomic

theorem atomic_ite {c : Prop} [Decidable c] {y : Action α} (hx : x.Atomic) (hy : y.Atomic) :
    Atomic (if c then x else y) := by
  split_ifs
  · exact hx
  · exact hy

end Action

namespace OpenAction

variable {α β : Type}

/-- A fault of the step leaves the plain world and all variables as they were. -/
def Atomic (x : OpenAction α) : Prop :=
  ∀ o e o', x o = some (.error e, o') → o'.base = o.base ∧ o'.held = o.held

/-- The step ends, and leaves the world as it is. -/
def Reads (x : OpenAction α) : Prop := ∀ o, ∃ r, x o = some (r, o)

/-- The step does not fault. -/
def Sure (x : OpenAction α) : Prop := ∀ o e o', x o ≠ some (.error e, o')

theorem reads_pure (a : α) : Reads (.pure a) := fun _ => ⟨_, rfl⟩

theorem reads_fail (e : Fault) : Reads (α := α) (.fail e) := fun _ => ⟨_, rfl⟩

theorem reads_check (r : Except Fault α) : Reads (.check r) := fun _ => ⟨_, rfl⟩

theorem reads_look (f : OpenWorld → Except Fault α) : Reads (.look f) := fun _ => ⟨_, rfl⟩

theorem reads_view (f : OpenWorld → α) : Reads (.view f) := fun _ => ⟨_, rfl⟩

theorem sure_pure (a : α) : Sure (.pure a) := nofun

theorem sure_modify (f : OpenWorld → OpenWorld) : Sure (.modify f) := nofun

variable {x : OpenAction α} {k : α → OpenAction β}

theorem Sure.bind (hx : x.Sure) (hk : ∀ a, (k a).Sure) : Sure (x >>= k) := by
  intro o e o' h
  change OpenAction.bind x k o = _ at h
  unfold OpenAction.bind at h
  rcases hrun : x o with _ | ⟨e' | a, o₁⟩ <;> rw [hrun] at h
  · cases h
  · exact hx o e' o₁ hrun
  · exact hk a o₁ e o' h

theorem Sure.atomic (hx : x.Sure) : x.Atomic := fun o e o' h => absurd h (hx o e o')

theorem Reads.atomic (hx : x.Reads) : x.Atomic := by
  intro o e o' h
  obtain ⟨r, hr⟩ := hx o
  rw [hr] at h
  cases h
  exact ⟨rfl, rfl⟩

/-- What follows a step that reads finds the world as it was. -/
theorem Reads.bind (hx : x.Reads) (hk : ∀ a, (k a).Atomic) : Atomic (x >>= k) := by
  intro o e o' h
  change OpenAction.bind x k o = _ at h
  unfold OpenAction.bind at h
  obtain ⟨e' | a, hr⟩ := hx o <;> rw [hr] at h
  · cases h
    exact ⟨rfl, rfl⟩
  · exact hk a o e o' h

/-- A write, and then the value. -/
theorem atomic_modify (f : OpenWorld → OpenWorld) (a : α) :
    Atomic (.modify f >>= fun _ => .pure a) :=
  ((sure_modify f).bind fun _ => sure_pure a).atomic

theorem atomic_ite {c : Prop} [Decidable c] {y : OpenAction α} (hx : x.Atomic) (hy : y.Atomic) :
    Atomic (if c then x else y) := by
  split_ifs
  · exact hx
  · exact hy

/-- A step of the plain world, and then one that does nothing. -/
theorem atomic_beside_bind {x : Action α} (hx : x.Atomic) (f : α → β) :
    (OpenAction.bind (.beside x) fun a => .pure (f a)).Atomic := by
  intro o e o' h
  unfold OpenAction.bind OpenAction.beside at h
  rcases hrun : x o.base with ⟨e' | a, base⟩
  · rw [hrun] at h
    cases h
    obtain rfl := hx _ _ _ hrun
    exact ⟨rfl, funext fun id => ite_eq_left_iff.mpr fun hid => (if_neg hid).symm⟩
  · rw [hrun] at h
    cases h

end OpenAction

/-! ### Commands -/

/-- A badge that cannot be awarded leaves all badges as they are. -/
theorem Badges.grant_of_error {bs bs' : Badges} {name rank : String} {e : ContextFault}
    (h : bs.grant name rank = (.error e, bs')) : bs' = bs := by
  unfold grant at h
  cases hfind : bs.find name with
  | error e' =>
    rw [hfind] at h
    exact (congrArg Prod.snd h).symm
  | ok b =>
    cases haward : b.award? rank with
    | none =>
      rw [hfind] at h
      dsimp only at h
      rw [haward] at h
      exact (congrArg Prod.snd h).symm
    | some b' =>
      rw [hfind] at h
      dsimp only at h
      rw [haward] at h
      cases h

namespace Builtin

open CoachScript.Action

variable (call : Call) (args : List Value)

/-! ### Scores and badges -/

theorem sure_contribute (name : String) (entry : ScoreEntry) : Sure (contribute call name entry) :=
  (sure_modify _).bind fun _ => sure_view _

theorem atomic_addScore : Atomic (addScore call args) :=
  (reads_check _).bind fun name => (reads_check _).bind fun number =>
    (sure_contribute call name (.value number)).atomic

theorem atomic_capScore : Atomic (capScore call args) :=
  (reads_check _).bind fun name => (reads_check _).bind fun limit =>
    (sure_contribute call name (.cap limit)).atomic

theorem atomic_onBadges {f : Badges → Except ContextFault Unit × Badges}
    (hf : ∀ bs e bs', f bs = (.error e, bs') → bs' = bs) : Atomic (onBadges call f) := by
  intro w e w' h
  unfold onBadges at h
  rcases hrun : f (call.context w).badges with ⟨e' | u, badges⟩ <;> rw [hrun] at h
  · obtain rfl := hf _ e' badges hrun
    have hsame : w.contexts.modify call.target (fun c => { c with badges := (call.context w).badges }) =
        w.contexts := w.contexts.modify_eq_self rfl
    exact (congrArg Prod.snd h).symm.trans (congrArg (fun contexts => { w with contexts }) hsame)
  · cases h

theorem atomic_createBadge : Atomic (createBadge call args) :=
  (reads_check _).bind fun _ => (reads_check _).bind fun _ =>
    atomic_modify _ _

theorem atomic_awardBadge : Atomic (awardBadge call args) :=
  (reads_check _).bind fun _ => (reads_check _).bind fun _ =>
    (atomic_onBadges call fun _ _ _ => Badges.grant_of_error).bind fun _ => sure_pure _

theorem atomic_revokeBadge : Atomic (revokeBadge call args) :=
  (reads_check _).bind fun _ => (reads_view _).bind fun _ =>
    atomic_modify _ _

/-! ### Variables and arrays -/

theorem atomic_set : Atomic (set call args) :=
  (reads_check _).bind fun _ => (reads_look _).bind fun (_, _) =>
    atomic_modify _ _

theorem atomic_append : Atomic (append call args) :=
  (reads_check _).bind fun _ => (reads_look _).bind fun (_, _) => (reads_check _).bind fun _ =>
    (reads_view _).bind fun _ => atomic_modify _ _

theorem atomic_arrayAdd : Atomic (arrayAdd call args) :=
  (reads_check _).bind fun _ => (reads_check _).bind fun _ => (reads_check _).bind fun _ =>
    atomic_ite (reads_fail _).atomic <| (reads_view _).bind fun _ =>
      atomic_ite (reads_pure _).atomic (atomic_modify _ _)

theorem atomic_arrayRemove : Atomic (arrayRemove call args) :=
  (reads_check _).bind fun _ => (reads_check _).bind fun _ => (reads_view _).bind fun _ =>
    atomic_ite (atomic_modify _ _) (reads_pure _).atomic

theorem atomic_arrayClear : Atomic (arrayClear call args) :=
  (reads_check _).bind fun _ => atomic_modify _ _

/-! ### Hidden questions -/

theorem sure_hideOne (hide : Bool) (question : String) : Sure (hideOne call hide question) :=
  (sure_view _).bind fun _ => (sure_modify _).bind fun _ => sure_pure _

/-- However many questions are hidden, none of them can fault halfway. -/
theorem sure_hideEach (hide : Bool) (questions : List String) : Sure (hideEach call hide questions) := by
  induction questions with
  | nil => exact sure_pure 0
  | cons question more ih =>
    exact (sure_hideOne call hide question).bind fun _ => ih.bind fun _ => sure_pure _

theorem atomic_setHidden : Atomic (setHidden call args) :=
  (reads_check _).bind fun question => (reads_check _).bind fun hide => (reads_look _).bind fun _ =>
    atomic_ite (reads_fail _).atomic
      ((sure_hideOne call hide question).bind fun _ => sure_pure _).atomic

theorem atomic_setHiddenRange : Atomic (setHiddenRange call args) :=
  (reads_check _).bind fun _ => (reads_check _).bind fun _ => (reads_check _).bind fun hide =>
    (reads_look _).bind fun _ => ((sure_hideEach call hide _).bind fun _ => sure_pure _).atomic

/-! ### Recommendations and the log -/

theorem atomic_addRecommendation : Atomic (addRecommendation call args) :=
  (reads_check _).bind fun _ => (reads_check _).bind fun _ => (reads_check _).bind fun _ =>
    (reads_check _).bind fun _ => (reads_check _).bind fun _ => (reads_view _).bind fun _ =>
      atomic_modify _ _

theorem atomic_removeRecommendation : Atomic (removeRecommendation call args) :=
  (reads_check _).bind fun _ => (reads_view _).bind fun _ =>
    atomic_modify _ _

theorem atomic_hasRecommendation : Atomic (hasRecommendation call args) :=
  (reads_check _).bind fun _ => ((sure_modify _).bind fun _ => sure_view _).atomic

theorem atomic_log : Atomic (log call args) := atomic_modify _ _

end Builtin

/-! ### Commands on variables that may hold calls -/

namespace Open

open CoachScript.OpenAction

variable (call : Call) (vs : List Value)

theorem atomic_set : Atomic (set call vs) :=
  (reads_check _).bind fun _ => (reads_look _).bind fun (_, _) =>
    atomic_modify _ _

theorem atomic_append : Atomic (append call vs) :=
  (reads_check _).bind fun _ => (reads_look _).bind fun (_, _) => (reads_check _).bind fun _ =>
    (reads_view _).bind fun _ => atomic_modify _ _

theorem atomic_arrayAdd : Atomic (arrayAdd call vs) :=
  (reads_check _).bind fun _ => (reads_check _).bind fun _ => (reads_check _).bind fun _ =>
    atomic_ite (reads_fail _).atomic <| (reads_view _).bind fun _ =>
      atomic_ite (reads_pure _).atomic (atomic_modify _ _)

theorem atomic_arrayRemove : Atomic (arrayRemove call vs) :=
  (reads_check _).bind fun _ => (reads_check _).bind fun _ => (reads_view _).bind fun _ =>
    atomic_ite (atomic_modify _ _) (reads_pure _).atomic

theorem atomic_arrayClear : Atomic (arrayClear call vs) :=
  (reads_check _).bind fun _ => atomic_modify _ _

end Open

namespace Command

/-- **A command that faults changes nothing**, unless it creates or removes an instance. -/
theorem run_atomic {command : Command} (hcreate : command ≠ .createSubcoach)
    (hremove : command ≠ .removeSubcoach) (call : Call) (args : List Value) :
    (command.run call args).Atomic := by
  cases command with
  | createSubcoach => exact absurd rfl hcreate
  | removeSubcoach => exact absurd rfl hremove
  | choose | equals | compare | concat => exact (Action.reads_pure _).atomic
  | addScore => exact Builtin.atomic_addScore call args
  | capScore => exact Builtin.atomic_capScore call args
  | set => exact Builtin.atomic_set call args
  | append => exact Builtin.atomic_append call args
  | setHidden => exact Builtin.atomic_setHidden call args
  | setHiddenRange => exact Builtin.atomic_setHiddenRange call args
  | arrayAdd => exact Builtin.atomic_arrayAdd call args
  | arrayRemove => exact Builtin.atomic_arrayRemove call args
  | arrayClear => exact Builtin.atomic_arrayClear call args
  | createBadge => exact Builtin.atomic_createBadge call args
  | awardBadge => exact Builtin.atomic_awardBadge call args
  | revokeBadge => exact Builtin.atomic_revokeBadge call args
  | addRecommendation => exact Builtin.atomic_addRecommendation call args
  | removeRecommendation => exact Builtin.atomic_removeRecommendation call args
  | hasRecommendation => exact Builtin.atomic_hasRecommendation call args
  | log => exact Builtin.atomic_log call args
  | _ => exact (Action.reads_look _).atomic

section Open

variable (ask : Expr → OpenAction Expr) (call : Call) (vs : List Value)

theorem orDefault_atomic (found? : Option Expr) : (orDefault ask call (vs.map .value) found?).Atomic := by
  unfold orDefault
  rw [List.getElem?_map]
  cases found? with
  | some e => exact (OpenAction.reads_pure e).atomic
  | none =>
    cases vs[2]? with
    | none => exact (OpenAction.reads_pure _).atomic
    | some v =>
      have hreceive : receive ask call ("default", .value) (.value v) =
          .look fun _ => (Wanted.value.check call "default" (.value v) v).map fun _ => v := rfl
      dsimp only [Option.map_some]
      rw [hreceive]
      exact (OpenAction.reads_look _).bind fun _ => (OpenAction.reads_pure _).atomic

/-- With literals, only the branch of a choice is left to be evaluated. -/
theorem proceed_atomic (hask : ∀ v, (ask (.value v)).Atomic) {command : Command}
    (hcreate : command ≠ .createSubcoach) (hremove : command ≠ .removeSubcoach) (us : List Value) :
    (command.proceed ask call (vs.map .value) us).Atomic := by
  have hbeside (hrun : command.proceed ask call (vs.map .value) us =
      .bind (.beside (command.run call us)) fun v => .pure (.value v)) :
      (command.proceed ask call (vs.map .value) us).Atomic := by
    rw [hrun]
    exact OpenAction.atomic_beside_bind (run_atomic hcreate hremove call us) _
  cases command with
  | choose =>
    unfold Command.proceed
    dsimp only
    rw [List.getElem?_map]
    cases vs[if us = [.bool true] then 1 else 2]? with
    | none => exact (OpenAction.reads_pure _).atomic
    | some v => exact hask v
  | get => exact (OpenAction.reads_look _).bind (orDefault_atomic ask call vs)
  | getMetadata => exact (OpenAction.reads_look _).bind (orDefault_atomic ask call vs)
  | set => exact Open.atomic_set call us
  | append => exact Open.atomic_append call us
  | arrayAdd => exact Open.atomic_arrayAdd call us
  | arrayRemove => exact Open.atomic_arrayRemove call us
  | arrayClear => exact Open.atomic_arrayClear call us
  | arrayLength | arrayContains | arrayGet | getSubcoachVariable => exact (OpenAction.reads_look _).atomic
  | _ => exact hbeside rfl

theorem execute_atomic (hask : ∀ v, (ask (.value v)).Atomic) {command : Command}
    (hcreate : command ≠ .createSubcoach) (hremove : command ≠ .removeSubcoach) :
    (command.execute ask call (vs.map .value)).Atomic := by
  unfold Command.execute
  rw [receiveAll_values]
  exact (OpenAction.reads_look _).bind (proceed_atomic ask call vs hask hcreate hremove)

end Open

end Command

/-! ### Calls with literal arguments -/

/-- Literal arguments are their values. -/
theorem resolveArgs_values (ask : Expr → OpenAction Expr) (eager : Nat) (vs : List Value) :
    resolveArgs ask eager (vs.map .value) = .pure (vs.map .value) := by
  induction vs generalizing eager with
  | nil => rfl
  | cons v vs ih =>
    rw [List.map_cons]
    unfold resolveArgs
    rw [ih, if_neg (fun h => nomatch h.2)]
    rfl

theorem evaluateAt_values (scene : Scene) (n : Nat) (vs : List Value) :
    evaluateAt scene n (vs.map .value) = .pure (vs[n]?.getD .null) := by
  induction vs generalizing n with
  | nil => cases n <;> rfl
  | cons v vs ih =>
    cases n with
    | zero => rfl
    | succ n => exact ih n

theorem evaluateChoice_atomic (scene : Scene) (vs : List Value) :
    (evaluateChoice scene (vs.map .value)).Atomic := by
  cases vs with
  | nil => exact (Action.reads_pure _).atomic
  | cons condition branches =>
    have hbranch (holds : Bool) :
        (evaluateAt scene (if holds then 0 else 1) (branches.map .value)).Atomic := by
      rw [evaluateAt_values]
      exact (Action.reads_pure _).atomic
    exact (Action.reads_look fun _ => truth (String.ofList condition.source) condition).bind hbranch

/-- **A call with literal arguments that faults changes nothing**, unless it creates or removes an
instance: not the contexts, the store, the host and the log, and, where variables may hold
calls, not the variables either. -/
theorem evaluate_atomic (scene : Scene) (path : Path) (name : String) (vs : List Value)
    (h : ∀ command, scene.commands.find? name = some command →
      command ≠ .createSubcoach ∧ command ≠ .removeSubcoach) :
    (∀ w e w', evaluate scene (.call path name (vs.map .value)) w = (.error e, w') → w' = w) ∧
    ∀ depth o e o', reenter scene depth (.call path name (vs.map .value)) o = some (.error e, o') →
      o'.base = o.base ∧ o'.held = o.held := by
  constructor
  · show Action.Atomic _
    unfold evaluate
    cases hname : scene.commands.find? name with
    | none => exact (Action.reads_fail _).atomic
    | some command =>
      obtain ⟨hcreate, hremove⟩ := h command hname
      dsimp only
      split_ifs with haccepts hchoose
      · exact evaluateChoice_atomic scene vs
      · intro w e w' hw
        rw [Action.bind_of_ok (evaluateAll_values scene vs w)] at hw
        exact Command.run_atomic hcreate hremove _ vs w e w' hw
      · exact (Action.reads_fail _).atomic
  · intro depth
    show OpenAction.Atomic _
    cases depth with
    | zero => exact nofun
    | succ depth =>
      unfold reenter
      cases hname : scene.commands.find? name with
      | none => exact (OpenAction.reads_fail _).atomic
      | some command =>
        obtain ⟨hcreate, hremove⟩ := h command hname
        dsimp only
        split_ifs with haccepts
        · intro o e o' ho
          rw [resolveArgs_values] at ho
          refine Command.execute_atomic _ _ vs (fun v => ?_) hcreate hremove o e o' ho
          unfold reenter
          exact (OpenAction.reads_pure _).atomic
        · exact (OpenAction.reads_fail _).atomic

/-- An instance hides questions of its parent, whose coach the host does not give out. -/
theorem evaluate_atomic_outage :
    let w : World := ⟨.pair "a" "b" "c", ⟨[], [], [], [], [], [(.coach, "down")]⟩, #[]⟩
    let scene : Scene := ⟨1, .ofId "b", "q1", .builtin⟩
    let vs : List Value := [.string "q1", .string "q9", .bool true]
    let hide : Expr := .call (.levels 1) "setMHidden" (vs.map .value)
    evaluate scene hide w = (.error (.host (.lookup "down")), w) ∧
      ∃ o, reenter scene 1 hide w.opened = some (.error (.host (.lookup "down")), o) ∧
        o.base = w ∧ o.held = w.opened.held := by
  intro w scene vs hide
  have hname : scene.commands.find? "setMHidden" = some .setHiddenRange := by decide +kernel
  obtain ⟨hplain, hopen⟩ := evaluate_atomic scene (.levels 1) "setMHidden" vs fun command h => by
    obtain rfl := Option.some.inj (hname.symm.trans h)
    exact ⟨nofun, nofun⟩
  have hfault : (evaluate scene hide w).1 = .error (.host (.lookup "down")) := by
    dsimp only [w, scene, vs, hide]
    rfl
  have hopenFault : (reenter scene 1 hide w.opened).map Prod.fst =
      some (.error (.host (.lookup "down"))) := by
    dsimp only [w, scene, vs, hide]
    rfl
  obtain ⟨⟨_, o⟩, ho, rfl⟩ := Option.map_eq_some_iff.mp hopenFault
  exact ⟨Prod.ext hfault (hplain w _ _ (Prod.ext hfault rfl)), o, ho, hopen 1 _ _ _ ho⟩

end CoachScript
