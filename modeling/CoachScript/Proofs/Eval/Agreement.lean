import CoachScript.Proofs.Eval.Congruence
import CoachScript.Proofs.Eval.Reentry
import CoachScript.Proofs.Eval.Rules

/-!
# Commands on literal arguments

As long as no variable holds a call, all that a command finds among its evaluated arguments are
literals. Then it does what it does in the plain world.

* `Agrees`: from such a world, an open step ends, and does what a plain step does.
* `checks`: the checks that literal arguments must pass. **Where they fault, so does the command**
  (`run_refuses`).
* **`execute_agrees`**: a command with literal arguments does what it does in the plain world.
-/

namespace CoachScript

open CoachScript.Action

/-! ### Steps that agree -/

section Agrees

variable {α α' β β' : Type} {f : β → α} {f' : β' → α'}

/-- Where no variable holds a call, the open step ends, with the outcome of the plain one; it leaves
the world that the plain one leaves, and no variable there holds a call. -/
def Agrees (f : β → α) (x : OpenAction α) (y : Action β) : Prop :=
  ∀ o : OpenWorld, o.CallFree →
    ∃ o', x o = some ((y o.closed).1.map f, o') ∧ o'.closed = (y o.closed).2 ∧ o'.CallFree

theorem agrees_pure (b : β) : Agrees f (.pure (f b)) (.pure b) := fun o ho => ⟨o, rfl, rfl, ho⟩

theorem agrees_fail (e : Fault) : Agrees f (.fail e) (.fail e) := fun o ho => ⟨o, rfl, rfl, ho⟩

theorem agrees_bind {x : OpenAction α} {y : Action β} {k : α → OpenAction α'} {l : β → Action β'}
    (h : Agrees f x y) (hk : ∀ w b w', y w = (.ok b, w') → Agrees f' (k (f b)) (l b)) :
    Agrees f' (.bind x k) (.bind y l) := by
  intro o ho
  obtain ⟨o', hx, hclosed, ho'⟩ := h o ho
  unfold OpenAction.bind
  rcases hy : y o.closed with ⟨e | b, w'⟩
  · rw [hy] at hx hclosed
    rw [hx, Action.bind_of_error hy]
    exact ⟨o', rfl, hclosed, ho'⟩
  · rw [hy] at hx hclosed
    rw [hx, Action.bind_of_ok hy, ← show o'.closed = w' from hclosed]
    exact hk _ b w' hy o' ho'

theorem agrees_look {g : OpenWorld → Except Fault α} {h : World → Except Fault β}
    (hg : ∀ o, o.CallFree → g o = (h o.closed).map f) : Agrees f (.look g) (.look h) := by
  intro o ho
  refine ⟨o, ?_, rfl, ho⟩
  unfold OpenAction.look
  rw [hg o ho]
  rfl

theorem agrees_check (r : Except Fault α) : Agrees id (.check r) (.check r) := by
  intro o ho
  refine ⟨o, ?_, rfl, ho⟩
  cases r <;> rfl

theorem agrees_view {g : OpenWorld → α} {h : World → β} (hg : ∀ o, o.CallFree → g o = f (h o.closed)) :
    Agrees f (.view g) (.view h) := fun o ho =>
  ⟨o, congrArg (fun a => some (Except.ok a, o)) (hg o ho), rfl, ho⟩

theorem agrees_modify {g : OpenWorld → OpenWorld} {h : World → World}
    (hg : ∀ o, o.CallFree → (g o).closed = h o.closed ∧ (g o).CallFree) :
    Agrees id (.modify g) (.modify h) := fun o ho => ⟨g o, rfl, hg o ho⟩

theorem agrees_ite {c : Prop} [Decidable c] {x x' : OpenAction α} {y y' : Action β}
    (h : Agrees f x y) (h' : Agrees f x' y') : Agrees f (if c then x else x') (if c then y else y') := by
  split_ifs
  · exact h
  · exact h'

/-- What follows agrees whatever the value of the first step. -/
theorem agrees_then {x : OpenAction α} {y : Action β} {k : α → OpenAction α'} {l : β → Action β'}
    (h : Agrees f x y) (hk : ∀ b, Agrees f' (k (f b)) (l b)) : Agrees f' (x >>= k) (y >>= l) :=
  agrees_bind h fun _ b _ _ => hk b

/-- A command that leaves variables aside. -/
theorem agrees_beside (command : Command) (call : Call) (vs : List Value) (h : command.overlooks) :
    Agrees Expr.value
      (.bind (.beside (command.run call vs)) fun v => .pure (.value v)) (command.run call vs) := by
  intro o ho
  have hrun := Command.run_holding call vs h o.fits_closed
  rcases hbase : command.run call vs o.base with ⟨r, base⟩
  rw [hbase] at hrun
  have hclosed : command.run call vs o.closed = (r, (⟨base, o.held⟩ : OpenWorld).closed) := by
    rw [o.closed_beside]
    exact hrun
  refine ⟨⟨base, o.held⟩, ?_, by rw [hclosed], ho.beside base⟩
  unfold OpenAction.bind OpenAction.beside
  dsimp only
  rw [hbase, hclosed]
  cases r <;> rfl

end Agrees

/-! ### Literal arguments -/

section Arguments

variable (ask : Expr → OpenAction Expr) (call : Call)

/-- The checks that literal arguments must pass, in turn. -/
def checks : List Want → List Value → Except Fault (List Value)
  | want :: wants, v :: vs => do
    want.2.check call want.1 (.value v) v
    let vs ← checks wants vs
    pure (v :: vs)
  | _, _ => pure []

/-- Literal arguments are not evaluated again. -/
theorem receiveAll_values (wants : List Want) (vs : List Value) :
    receiveAll ask call wants (vs.map .value) = .look fun _ => checks call wants vs := by
  induction wants generalizing vs with
  | nil => cases vs <;> rfl
  | cons want wants ih =>
    cases vs with
    | nil => rfl
    | cons v vs =>
      funext o
      have hreceive : receive ask call want (.value v) o =
          some ((want.2.check call want.1 (.value v) v).map fun _ => v, o) := rfl
      rw [List.map_cons]
      unfold receiveAll checks OpenAction.bind OpenAction.look
      dsimp only
      rw [hreceive, ih]
      cases want.2.check call want.1 (.value v) v with
      | error e => rfl
      | ok u =>
        unfold OpenAction.look
        cases checks call wants vs <;> rfl

theorem checks_ok {wants : List Want} {vs us : List Value} (h : checks call wants vs = .ok us) :
    us = vs.take wants.length := by
  induction wants generalizing vs us with
  | nil =>
    cases vs <;> cases h <;> rfl
  | cons want wants ih =>
    cases vs with
    | nil =>
      cases h
      rfl
    | cons v vs =>
      unfold checks at h
      cases hcheck : want.2.check call want.1 (.value v) v with
      | error e => rw [hcheck] at h; cases h
      | ok u =>
        cases hmore : checks call wants vs with
        | error e => rw [hcheck, hmore] at h; cases h
        | ok us' =>
          rw [hcheck, hmore] at h
          cases h
          rw [List.length_cons, List.take_succ_cons, ← ih hmore]

/-! ### A command faults where its checks do -/

/-- The first argument fails its check, or another one does. -/
theorem checks_eq_error {γ : Type} {want : Want} {wants : List Want} {v : Value} {vs : List Value}
    {r : Except Fault γ} (hr : want.2.check call want.1 (.value v) v = r.map fun _ => ()) {e : Fault}
    (h : checks call (want :: wants) (v :: vs) = .error e) :
    r = .error e ∨ ∃ a, r = .ok a ∧ checks call wants vs = .error e := by
  unfold checks at h
  rw [hr] at h
  cases r with
  | error e' =>
    cases h
    exact .inl rfl
  | ok a =>
    refine .inr ⟨a, rfl, ?_⟩
    cases hmore : checks call wants vs with
    | error e' => rw [hmore] at h; exact h
    | ok us => rw [hmore] at h; cases h

/-- If the checks fault, the outcome is that fault. -/
def Guards {α : Type} (c : Except Fault (List Value)) (x : Except Fault α) : Prop :=
  ∀ e, c = .error e → x = .error e

/-- If the checks fault, the step has that fault and changes nothing. -/
def Refuses (c : Except Fault (List Value)) (y : Action Value) : Prop :=
  ∀ e w, c = .error e → y w = (.error e, w)

namespace Guards

variable {call} {α γ : Type} {want : Want} {wants : List Want} {v : Value}
  {vs : List Value} {c : Except Fault (List Value)}

theorem nil {x : Except Fault α} : Guards (checks call [] vs) x := by
  intro e h
  cases vs <;> cases h

/-- The argument is read as it was checked. -/
theorem bind {r : Except Fault γ} {k : γ → Except Fault α}
    (hr : want.2.check call want.1 (.value v) v = r.map fun _ => ())
    (hk : ∀ a, Guards (checks call wants vs) (k a)) :
    Guards (checks call (want :: wants) (v :: vs)) (r >>= k) := by
  intro e h
  obtain rfl | ⟨a, rfl, hmore⟩ := checks_eq_error call hr h
  · rfl
  · exact hk a e hmore

theorem bindMap {δ : Type} {r : Except Fault γ} (f : γ → δ) {k : δ → Except Fault α}
    (hr : want.2.check call want.1 (.value v) v = r.map fun _ => ())
    (hk : ∀ a, Guards (checks call wants vs) (k (f a))) :
    Guards (checks call (want :: wants) (v :: vs)) (r.map f >>= k) := by
  have hsame : (r.map f >>= k) = r >>= fun a => k (f a) := by cases r <;> rfl
  rw [hsame]
  exact bind hr hk

/-- Any literal passes. -/
theorem value {parameter : String} {x : Except Fault α} (h : Guards (checks call wants vs) x) :
    Guards (checks call ((parameter, .value) :: wants) (v :: vs)) x := by
  have hcheck : Wanted.check .value call parameter (.value v) v = .ok () := by
    cases v <;> rfl
  intro e he
  obtain he | ⟨u, -, hmore⟩ := checks_eq_error (r := .ok ()) call hcheck he
  · cases he
  · exact h e hmore

theorem values (parameter : String) (x : Except Fault α) :
    Guards (checks call (List.replicate vs.length (parameter, .value)) vs) x := by
  induction vs with
  | nil => exact nil
  | cons v vs ih => exact value ih

/-- The last argument. -/
theorem last {r : Except Fault γ} (hr : want.2.check call want.1 (.value v) v = r.map fun _ => ()) :
    Guards (checks call [want] [v]) r := by
  intro e h
  obtain rfl | ⟨a, rfl, hmore⟩ := checks_eq_error call hr h
  · rfl
  · cases hmore

theorem conditions (vs : List Value) :
    Guards (checks call (List.replicate vs.length ("", .condition)) vs)
      (Builtin.conditions vs) := by
  unfold Builtin.conditions
  induction vs with
  | nil => exact nil
  | cons v vs ih =>
    rw [List.mapM_cons]
    refine bind rfl fun b e he => ?_
    rw [ih e he]
    rfl

theorem map {f : γ → α} {x : Except Fault γ} (h : Guards c x) : Guards c (x.map f) := by
  intro e he
  rw [h e he]
  rfl

theorem texts (parameter : String) (vs : List Value) :
    Guards (checks call (List.replicate vs.length (parameter, .text)) vs)
      (vs.mapM fun v => call.text [v] 0 parameter) := by
  induction vs with
  | nil => exact nil
  | cons v vs ih =>
    rw [List.mapM_cons]
    refine bind rfl fun b e he => ?_
    rw [ih e he]
    rfl

end Guards

namespace Refuses

variable {call} {γ δ : Type} {want : Want} {wants : List Want} {v : Value} {vs : List Value}
  {c : Except Fault (List Value)}

theorem look {f : World → Except Fault Value} (h : ∀ w, Guards c (f w)) : Refuses c (.look f) :=
  fun e w he => congrArg (·, w) (h w e he)

/-- The checks do not fault. -/
theorem never {y : Action Value} (h : Guards c (.ok ())) : Refuses c y := by
  intro e w he
  cases h e he

theorem nil {y : Action Value} : Refuses (checks call [] vs) y := never .nil

/-- The first step checks as the arguments were checked. -/
theorem guarded {r : Except Fault γ} (h : Guards c r) (k : γ → Action Value) :
    Refuses c (.check r >>= k) := by
  intro e w he
  rw [h e he]
  rfl

/-- A step reads an argument as it was checked. -/
theorem bindMap {r : Except Fault γ} (f : γ → δ) {k : δ → Action Value}
    (hr : want.2.check call want.1 (.value v) v = r.map fun _ => ())
    (hk : ∀ a, Refuses (checks call wants vs) (k (f a))) :
    Refuses (checks call (want :: wants) (v :: vs)) (.check (r.map f) >>= k) := by
  intro e w h
  obtain rfl | ⟨a, rfl, hmore⟩ := checks_eq_error call hr h
  · rfl
  · exact hk a e w hmore

theorem bind {r : Except Fault γ} {k : γ → Action Value}
    (hr : want.2.check call want.1 (.value v) v = r.map fun _ => ())
    (hk : ∀ a, Refuses (checks call wants vs) (k a)) :
    Refuses (checks call (want :: wants) (v :: vs)) (.check r >>= k) := by
  intro e w h
  obtain rfl | ⟨a, rfl, hmore⟩ := checks_eq_error call hr h
  · rfl
  · exact hk a e w hmore

/-- A step that looks at the world and finds what it needs. -/
theorem look_bind {g : World → Except Fault γ} {k : γ → Action Value}
    (h : ∀ w, ∃ a, g w = .ok a ∧ Refuses c (k a)) : Refuses c (.look g >>= k) := by
  intro e w he
  obtain ⟨a, ha, hk⟩ := h w
  rw [look_bind_of_ok ha]
  exact hk e w he

theorem createSubcoach {vs : List Value} (h : ∀ w, Guards c (Builtin.creation call vs w)) :
    Refuses c (Builtin.createSubcoach call vs) := by
  intro e w he
  unfold Builtin.createSubcoach
  rw [h w e he]

theorem removeSubcoach {vs : List Value} (h : Guards c (Builtin.instanceIds call vs)) :
    Refuses c (Builtin.removeSubcoach call vs) := by
  intro e w he
  unfold Builtin.removeSubcoach
  rw [h e he]

end Refuses

/-- The arguments behind the first, read by their places. -/
theorem mapM_text_tail (first : Value) (vs : List Value) (parameter : String) :
    (List.range vs.length).mapM (fun i => call.text (first :: vs) (i + 1) parameter) =
      vs.mapM fun v => call.text [v] 0 parameter := by
  have hvalues : (List.range vs.length).map (Call.value vs) = vs := by
    refine List.ext_getElem (by simp) fun i hi hi' => ?_
    simp [Call.value, hi']
  have hread : (fun i => call.text (first :: vs) (i + 1) parameter) =
      (fun v => call.text [v] 0 parameter) ∘ Call.value vs := rfl
  rw [hread, ← List.mapM_map, hvalues]

theorem classes_guards (name : Value) (classes : List Value) :
    Guards (checks call (List.replicate classes.length ("class", .text)) classes)
      (Builtin.classes call (name :: classes)) := by
  have hclasses := mapM_text_tail call name classes "class"
  unfold Builtin.classes
  rw [List.length_cons, Nat.add_sub_cancel, hclasses]
  exact .texts "class" classes

theorem instanceIds_guards {α : Type} {wants : List Want} (a b : Value) {vs : List Value}
    {k : String × String → Except Fault α} (hk : ∀ ids, Guards (checks call wants vs) (k ids)) :
    Guards (checks call (("coachId", .text) :: ("instanceId", .text) :: wants) (a :: b :: vs))
      (Builtin.instanceIds call (a :: b :: vs) >>= k) := by
  have hread : Builtin.instanceIds call (a :: b :: vs) >>= k =
      call.text (a :: b :: vs) 0 "coachId" >>= fun coachId =>
        call.text (a :: b :: vs) 1 "instanceId" >>= fun instanceId => k (coachId, instanceId) := by
    unfold Builtin.instanceIds
    cases call.text (a :: b :: vs) 0 "coachId" with
    | error e => rfl
    | ok coachId => cases call.text (a :: b :: vs) 1 "instanceId" <;> rfl
  rw [hread]
  exact .bind rfl fun coachId => .bind rfl fun instanceId => hk _

/-- A number of arguments that a command accepts. -/
abbrev Command.Takes (command : Command) (vs : List Value) : Prop :=
  command.arity.accepts vs.length = true

/-- **Where its checks fault, a command faults in the same way and does nothing.** -/
theorem run_refuses {command : Command} (hchoose : command ≠ .choose) {vs : List Value}
    (hcount : command.Takes vs) :
    Refuses (checks call (command.wants vs.length) vs) (command.run call vs) := by
  cases command with
  | choose => exact absurd rfl hchoose
  | all => exact .look fun _ => (Guards.conditions vs).map
  | any => exact .look fun _ => (Guards.conditions vs).map
  | negate =>
    match vs, hcount with
    | [a], _ => exact .look fun w => .map (.last rfl)
  | equals | compare =>
    match vs, hcount with
    | [a, b], _ => exact .never (.value (.value .nil))
  | addScore | capScore =>
    match vs, hcount with
    | [a, b], _ => exact .bind rfl fun name => .bind rfl fun number => .nil
  | getScore =>
    match vs, hcount with
    | [a], _ => exact .look fun w => .bind rfl fun name => .nil
  | set =>
    match vs, hcount with
    | [a, b], _ =>
      exact .bind rfl fun name => .look_bind fun w => ⟨(some (call.source w), 1), rfl, .never (.value .nil)⟩
    | [a, b, c], _ =>
      exact .bind rfl fun name => .bindMap (·, 2) rfl fun key => .never (.value .nil)
  | get =>
    match vs, hcount with
    | [a], _ => exact .look fun w => .bind rfl fun name => .nil
    | [a, b], _ => exact .look fun w => .bind rfl fun name => .bind rfl fun key => .nil
    | [a, b, c], _ => exact .look fun w => .bind rfl fun name => .bind rfl fun key => .nil
  | append =>
    match vs, hcount with
    | [a, b], _ =>
      refine .bind rfl fun name => .look_bind fun w => ⟨(some (call.source w), 1), rfl, ?_⟩
      exact .bind rfl fun text => .nil
    | [a, b, c], _ =>
      exact .bind rfl fun name => .bindMap (·, 2) rfl fun key => .bind rfl fun text => .nil
  | isSelected | isAnswered | isHidden | arrayLength | hasHandler | getBadge =>
    match vs, hcount with
    | [a], _ => exact .look fun w => .bind rfl fun text => .nil
  | setHidden | awardBadge | arrayRemove =>
    match vs, hcount with
    | [a, b], _ => exact .bind rfl fun first => .bind rfl fun second => .nil
  | setHiddenRange =>
    match vs, hcount with
    | [a, b, c], _ =>
      exact .bind rfl fun low => .bind rfl fun high => .bind rfl fun hide => .nil
  | arrayAdd =>
    match vs, hcount with
    | [a, b], _ => exact .bind rfl fun name => .bind rfl fun element => .nil
    | [a, b, c], _ =>
      exact .bind rfl fun name => .bind rfl fun element => .bind rfl fun unique => .nil
  | arrayContains | arrayGet =>
    match vs, hcount with
    | [a, b], _ => exact .look fun w => .bind rfl fun name => .bind rfl fun second => .nil
  | arrayClear | revokeBadge | removeRecommendation | hasRecommendation =>
    match vs, hcount with
    | [a], _ => exact .bind rfl fun name => .nil
  | createBadge =>
    match vs, hcount with
    | name :: classes, _ => exact .bind rfl fun name' => .guarded (classes_guards call name classes) _
  | hasBadge =>
    match vs, hcount with
    | [a], _ => exact .look fun w => .bind rfl fun name => .nil
    | [a, b], _ => exact .look fun w => .bind rfl fun name => .bindMap some rfl fun rank => .nil
  | addRecommendation =>
    match vs, hcount with
    | [a, b, c, d], _ =>
      exact .bind rfl fun id => .bind rfl fun order => .bind rfl fun title =>
        .bind rfl fun text => .nil
    | [a, b, c, d, e], _ =>
      exact .bind rfl fun id => .bind rfl fun order => .bind rfl fun title =>
        .bind rfl fun text => .guarded (.map (.last rfl)) _
  | createSubcoach =>
    match vs, hcount with
    | [a, b], _ => exact .createSubcoach fun w => instanceIds_guards call a b fun ids => .nil
    | [a, b, c], _ =>
      refine .createSubcoach fun w => instanceIds_guards call a b fun (coachId, instanceId) => ?_
      exact .bindMap (fun text : Option String => text.getD "") rfl fun argument => .nil
  | removeSubcoach =>
    match vs, hcount with
    | [a, b], _ => exact .removeSubcoach (.bind rfl fun coachId => .bind rfl fun instanceId => .nil)
  | getParentArgument =>
    match vs, hcount with
    | [], _ => exact .never .nil
  | getSubcoachVariable =>
    match vs, hcount with
    | [a, b, c], _ =>
      exact .look fun w => instanceIds_guards call a b fun ids => .bind rfl fun name => .nil
  | concat | log => exact .never (.values "value" _)
  | getMetadata =>
    match vs, hcount with
    | [a, b], _ => exact .look fun w => .bind rfl fun group => .bind rfl fun key => .nil
    | [a, b, c], _ => exact .look fun w => .bind rfl fun group => .bind rfl fun key => .nil

/-! ### What a command does with its arguments -/

section Variables

variable {o : OpenWorld} (h : o.CallFree) {vs : List Value}

theorem source_closed (o : OpenWorld) : call.source o.closed = call.source o.base :=
  call.source_holding o.base _

include h

theorem elements_same (name : String) :
    Open.elements call name o = Builtin.elements call name o.closed := by
  unfold Open.elements Builtin.elements Builtin.memory Call.context
  rw [source_closed, o.memory_closed, (h call.target).own?_eq]
  cases (o.held call.target).closed.own? name (call.source o.base) <;> rfl

theorem writeElements_same (name : String) (es : List String) :
    (Open.writeElements call name es o).closed = Builtin.writeElements call name es o.closed ∧
      (Open.writeElements call name es o).CallFree := by
  unfold Open.writeElements Builtin.writeElements
  rw [source_closed]
  exact ⟨o.closed_write _ _ _ _, h.write _ _ _ _⟩

theorem arrayLength_same :
    Open.arrayLength call vs o = (Builtin.arrayLength call vs o.closed).map .value := by
  unfold Open.arrayLength Builtin.arrayLength
  simp only [elements_same call h]
  cases call.text vs 0 "name" <;> rfl

theorem arrayContains_same :
    Open.arrayContains call vs o = (Builtin.arrayContains call vs o.closed).map .value := by
  unfold Open.arrayContains Builtin.arrayContains
  simp only [elements_same call h]
  cases call.text vs 0 "name" with
  | error e => rfl
  | ok name => cases call.text vs 1 "value" <;> rfl

theorem arrayGet_same :
    Open.arrayGet call vs o = (Builtin.arrayGet call vs o.closed).map .value := by
  unfold Open.arrayGet Builtin.arrayGet
  simp only [elements_same call h]
  cases call.text vs 0 "name" with
  | error e => rfl
  | ok name => cases call.integer vs 1 "index" <;> rfl

theorem getSubcoachVariable_same : Open.getSubcoachVariable call vs o =
    (Builtin.getSubcoachVariable call vs o.closed).map .value := by
  have hhandle (coachId instanceId : String) :
      (call.context o.closed).handle? coachId instanceId =
        (call.context o.base).handle? coachId instanceId :=
    o.base.contexts.handle?_holding _ call.target coachId instanceId
  unfold Open.getSubcoachVariable Builtin.getSubcoachVariable
  simp only [hhandle, o.memory_closed]
  rcases Builtin.instanceIds call vs with e | ⟨coachId, instanceId⟩
  · rfl
  cases call.text vs 2 "name" with
  | error e => rfl
  | ok name =>
    dsimp only [Bind.bind, Except.bind]
    cases (call.context o.base).handle? coachId instanceId with
    | none => rfl
    | some handle =>
      dsimp only
      rw [(h handle.context).get?_eq]
      cases (o.held handle.context).closed.get? name none <;> rfl

end Variables

/-! ### Commands that write variables -/

theorem agrees_writeKey (vs : List Value) :
    Agrees id (.look fun o => Builtin.writeKey call vs o.base) (.look (Builtin.writeKey call vs)) := by
  refine agrees_look fun o ho => ?_
  have hkey : Builtin.writeKey call vs o.closed = Builtin.writeKey call vs o.base :=
    Builtin.writeKey_holding call vs o.base _
  rw [hkey]
  cases Builtin.writeKey call vs o.base <;> rfl

theorem agrees_write (name : String) (key : Option String) (v : Value) :
    Agrees id (.modify fun o => o.write call.target name key (.value v))
      (.modify (Builtin.write call name key v)) :=
  agrees_modify fun o ho => ⟨o.closed_write _ _ _ _, ho.write _ _ _ _⟩

theorem agrees_elements (name : String) :
    Agrees id (.view (Open.elements call name)) (.view (Builtin.elements call name)) :=
  agrees_view fun _ ho => elements_same call ho name

theorem agrees_writeElements (name : String) (es : List String) :
    Agrees id (.modify (Open.writeElements call name es)) (.modify (Builtin.writeElements call name es)) :=
  agrees_modify fun _ ho => writeElements_same call ho name es

theorem agrees_set (vs : List Value) :
    Agrees Expr.value (Open.set call vs) (Builtin.set call vs) := by
  refine agrees_then (agrees_check _) fun name => ?_
  refine agrees_then (agrees_writeKey call vs) fun (key, index) => ?_
  exact agrees_then (agrees_write call name key _) fun _ => agrees_pure _

theorem agrees_append (vs : List Value) :
    Agrees Expr.value (Open.append call vs) (Builtin.append call vs) := by
  have htext (current : Option Value) : ((current.map Expr.value).bind Expr.text?).getD "" =
      (current.getD .null).textOrEmpty := by
    cases current <;> rfl
  refine agrees_then (agrees_check _) fun name => ?_
  refine agrees_then (agrees_writeKey call vs) fun (key, index) => ?_
  refine agrees_then (agrees_check _) fun more => ?_
  refine agrees_then (agrees_view (f := Option.map Expr.value) fun o ho => ?_) fun current => ?_
  · unfold Builtin.memory Call.context
    rw [o.memory_closed]
    cases key with
    | none => exact (ho call.target).get?_eq name none
    | some source => exact (ho call.target).own?_eq name source
  · dsimp only
    rw [htext]
    exact agrees_then (agrees_write call name key _) fun _ => agrees_pure _

theorem agrees_arrayAdd (vs : List Value) :
    Agrees Expr.value (Open.arrayAdd call vs) (Builtin.arrayAdd call vs) := by
  refine agrees_then (agrees_check _) fun name => agrees_then (agrees_check _) fun element => ?_
  refine agrees_then (agrees_check _) fun unique => agrees_ite (agrees_fail _) ?_
  refine agrees_then (agrees_elements call name) fun es => agrees_ite (agrees_pure _) ?_
  exact agrees_then (agrees_writeElements call name _) fun _ => agrees_pure _

theorem agrees_arrayRemove (vs : List Value) :
    Agrees Expr.value (Open.arrayRemove call vs) (Builtin.arrayRemove call vs) := by
  refine agrees_then (agrees_check _) fun name => agrees_then (agrees_check _) fun element => ?_
  refine agrees_then (agrees_elements call name) fun es => agrees_ite ?_ (agrees_pure _)
  exact agrees_then (agrees_writeElements call name _) fun _ => agrees_pure _

theorem agrees_arrayClear (vs : List Value) :
    Agrees Expr.value (Open.arrayClear call vs) (Builtin.arrayClear call vs) := by
  refine agrees_then (agrees_check _) fun name => ?_
  exact agrees_then (agrees_writeElements call name []) fun _ => agrees_pure _

/-! ### Commands that ask for an argument later -/

/-- A literal default is not evaluated again. -/
theorem orDefault_values (vs : List Value) (found? : Option Value) :
    orDefault ask call (vs.map .value) (found?.map .value) =
      .pure (.value (found?.getD (Call.value vs 2))) := by
  cases found? with
  | some v => rfl
  | none =>
    unfold orDefault Call.value
    rw [List.getElem?_map]
    cases vs[2]? with
    | none => rfl
    | some v => cases v <;> rfl

/-- What is found in both worlds, or else the default. -/
theorem agrees_orDefault (vs : List Value) {find : OpenWorld → Except Fault (Option Expr)}
    {find' : World → Except Fault (Option Value)}
    (h : ∀ o, o.CallFree → find o = (find' o.closed).map fun found? => found?.map .value) :
    Agrees Expr.value (.bind (.look find) (orDefault ask call (vs.map .value)))
      (.look fun w => (find' w).map fun found? => found?.getD (Call.value vs 2)) := by
  intro o ho
  refine ⟨o, ?_, rfl, ho⟩
  unfold OpenAction.bind OpenAction.look Action.look
  dsimp only
  rw [h o ho]
  cases find' o.closed with
  | error e => rfl
  | ok found? => exact congrFun (orDefault_values ask call vs found?) o

/-- The value of a variable, if there is one. -/
def plainFind? (vs : List Value) (w : World) : Except Fault (Option Value) := do
  let name ← call.text vs 0 "name"
  let key ← Builtin.sourceKey call vs 1 w
  pure ((Builtin.memory call w).get? name key)

/-- A piece of metadata, if there is one. -/
def plainMetadata? (vs : List Value) (w : World) : Except Fault (Option Value) := do
  let group ← call.text vs 0 "group"
  let key ← call.text vs 1 "key"
  let text? ← ofHost (w.host.metadataOf (call.context w).name group key)
  pure (text?.map .string)

theorem find?_same {o : OpenWorld} (h : o.CallFree) (vs : List Value) :
    Open.find? call vs o = (plainFind? call vs o.closed).map fun found? => found?.map .value := by
  have hkey : Builtin.sourceKey call vs 1 o.closed = Builtin.sourceKey call vs 1 o.base :=
    Builtin.sourceKey_holding call vs o.base _ 1
  unfold Open.find? plainFind? Builtin.memory Call.context
  rw [hkey, o.memory_closed]
  cases call.text vs 0 "name" with
  | error e => rfl
  | ok name =>
    cases Builtin.sourceKey call vs 1 o.base with
    | error e => rfl
    | ok key => exact congrArg Except.ok ((h call.target).get?_eq name key)

theorem metadata?_same (o : OpenWorld) (vs : List Value) :
    Open.metadata? call vs o =
      (plainMetadata? call vs o.closed).map fun found? => found?.map .value := by
  have hname : (call.context o.closed).name = (call.context o.base).name :=
    o.base.contexts.name_holding _ call.target
  have hhost : o.closed.host = o.base.host := rfl
  unfold Open.metadata? plainMetadata?
  rw [hname, hhost]
  cases call.text vs 0 "group" with
  | error e => rfl
  | ok group =>
    cases call.text vs 1 "key" with
    | error e => rfl
    | ok key =>
      show (ofHost (o.base.host.metadataOf (call.context o.base).name group key) >>= _) =
        Except.map _ (ofHost (o.base.host.metadataOf (call.context o.base).name group key) >>= _)
      cases ofHost (o.base.host.metadataOf (call.context o.base).name group key) with
      | error e => rfl
      | ok text? => cases text? <;> rfl

theorem get_eq {vs us : List Value} (hname : call.text vs 0 "name" = call.text us 0 "name")
    (hkey : ∀ w, Builtin.sourceKey call vs 1 w = Builtin.sourceKey call us 1 w) :
    Builtin.get call vs =
      fun w => (plainFind? call us w).map fun found? => found?.getD (Call.value vs 2) := by
  funext w
  unfold Builtin.get plainFind?
  rw [hname, hkey]
  cases call.text us 0 "name" with
  | error e => rfl
  | ok name => cases Builtin.sourceKey call us 1 w <;> rfl

theorem getMetadata_eq {vs us : List Value}
    (hgroup : call.text vs 0 "group" = call.text us 0 "group")
    (hkey : call.text vs 1 "key" = call.text us 1 "key") :
    Builtin.getMetadata call vs =
      fun w => (plainMetadata? call us w).map fun found? => found?.getD (Call.value vs 2) := by
  funext w
  unfold Builtin.getMetadata plainMetadata?
  rw [hgroup, hkey]
  cases call.text us 0 "group" with
  | error e => rfl
  | ok group =>
    cases call.text us 1 "key" with
    | error e => rfl
    | ok key =>
      show (ofHost (w.host.metadataOf (call.context w).name group key) >>= _) =
        Except.map _ (ofHost (w.host.metadataOf (call.context w).name group key) >>= _)
      cases ofHost (w.host.metadataOf (call.context w).name group key) with
      | error e => rfl
      | ok text? => cases text? <;> rfl

theorem agrees_get {vs us : List Value} (hname : call.text vs 0 "name" = call.text us 0 "name")
    (hkey : ∀ w, Builtin.sourceKey call vs 1 w = Builtin.sourceKey call us 1 w) :
    Agrees Expr.value (.bind (.look (Open.find? call us)) (orDefault ask call (vs.map .value)))
      (.look (Builtin.get call vs)) := by
  rw [get_eq call hname hkey]
  exact agrees_orDefault ask call vs fun o ho => find?_same call ho us

theorem agrees_getMetadata {vs us : List Value}
    (hgroup : call.text vs 0 "group" = call.text us 0 "group")
    (hkey : call.text vs 1 "key" = call.text us 1 "key") :
    Agrees Expr.value
      (.bind (.look (Open.metadata? call us)) (orDefault ask call (vs.map .value)))
      (.look (Builtin.getMetadata call vs)) := by
  rw [getMetadata_eq call hgroup hkey]
  exact agrees_orDefault ask call vs fun o _ => metadata?_same call o us

/-- The commands that ask for all their arguments at once. -/
def Command.asksAll : Command → Bool
  | .choose | .get | .getMetadata => false
  | _ => true

theorem length_wants {command : Command} (h : command.asksAll) {count : Nat}
    (hcount : command.arity.accepts count) : (command.wants count).length = count := by
  cases command with
  | choose | get | getMetadata => cases h
  | all | any | concat | log => exact List.length_replicate
  | set | append | arrayAdd | hasBadge | addRecommendation | createSubcoach =>
    simp only [Command.arity, Arity.accepts, Bool.and_eq_true, decide_eq_true_eq] at hcount
    simp only [Command.wants]
    split_ifs <;> simp only [List.length_append, List.length_cons, List.length_nil] <;> omega
  | _ =>
    simp only [Command.arity, Arity.accepts, beq_iff_eq, decide_eq_true_eq] at hcount
    simp only [Command.wants, List.length_cons, List.length_nil, List.length_replicate]
    omega

theorem proceed_overlooks {command : Command} (h : command.overlooks) (hall : command.asksAll)
    (args : List Expr) (vs : List Value) :
    command.proceed ask call args vs =
      .bind (.beside (command.run call vs)) fun v => .pure (.value v) := by
  cases command with
  | set | append | arrayAdd | arrayRemove | arrayLength | arrayContains | arrayGet | arrayClear
  | getSubcoachVariable => cases h
  | choose | get | getMetadata => cases hall
  | _ => rfl

/-- **On literal arguments that pass its checks, a command does what it does in the plain world.** -/
theorem proceed_agrees {command : Command} (hchoose : command ≠ .choose) {vs : List Value}
    (hcount : command.Takes vs) :
    Agrees Expr.value
      (command.proceed ask call (vs.map .value) (vs.take (command.wants vs.length).length))
      (command.run call vs) := by
  by_cases hall : command.asksAll
  · rw [length_wants hall hcount, List.take_length]
    by_cases hover : command.overlooks
    · rw [proceed_overlooks ask call hover hall]
      exact agrees_beside command call vs hover
    cases command with
    | set => exact agrees_set call vs
    | append => exact agrees_append call vs
    | arrayAdd => exact agrees_arrayAdd call vs
    | arrayRemove => exact agrees_arrayRemove call vs
    | arrayClear => exact agrees_arrayClear call vs
    | arrayLength => exact agrees_look fun o ho => arrayLength_same call ho
    | arrayContains => exact agrees_look fun o ho => arrayContains_same call ho
    | arrayGet => exact agrees_look fun o ho => arrayGet_same call ho
    | getSubcoachVariable => exact agrees_look fun o ho => getSubcoachVariable_same call ho
    | get => cases hall
    | _ => exact absurd rfl hover
  -- The commands that ask for an argument later.
  cases command with
  | choose => exact absurd rfl hchoose
  | get =>
    match vs, hcount with
    | [a], _ => exact agrees_get ask call rfl fun w => rfl
    | [a, b], _ => exact agrees_get ask call rfl fun w => rfl
    | [a, b, c], _ => exact agrees_get ask call rfl fun w => rfl
  | getMetadata =>
    match vs, hcount with
    | [a, b], _ => exact agrees_getMetadata ask call rfl rfl
    | [a, b, c], _ => exact agrees_getMetadata ask call rfl rfl
  | _ => exact absurd rfl hall

/-- A command with literal arguments does what it does in the plain world. -/
theorem execute_agrees {command : Command} (hchoose : command ≠ .choose) {vs : List Value}
    (hcount : command.Takes vs) :
    Agrees Expr.value (command.execute ask call (vs.map .value)) (command.run call vs) := by
  intro o ho
  unfold Command.execute
  rw [receiveAll_values, List.length_map]
  unfold OpenAction.bind OpenAction.look
  cases hchecks : checks call (command.wants vs.length) vs with
  | error e =>
    refine ⟨o, ?_, ?_, ho⟩
    · rw [run_refuses call hchoose hcount e o.closed hchecks]
      rfl
    · rw [run_refuses call hchoose hcount e o.closed hchecks]
  | ok us =>
    rw [checks_ok call hchecks]
    exact proceed_agrees ask call hchoose hcount o ho

end Arguments

end CoachScript
