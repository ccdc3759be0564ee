import CoachScript.Eval.Evaluate
import CoachScript.Proofs.State.Open

/-!
# Evaluation that is entered again

In an open world a variable may hold a call. Then a command may find a call among its
arguments after they were evaluated, and it hands that call to the evaluator again. Such an
evaluation does not follow the expression that it began with, and it need not end.

* `OpenAction`: a step in such a world. **Without an outcome it has not ended.** Commands on variables are
  put together from steps that check, read or write, as they are in the plain world.
* `Command.wants`: what a command asks of its arguments, in the order in which it asks.
* `receive`: an argument as a command takes it, evaluated if it is still a call, and checked.
* `reenter depth`: evaluation, as long as calls are nested no deeper than `depth`. **More depth does
  not change an outcome** (`reenter_mono`).
-/

namespace CoachScript

/-! ### Steps -/

/-- A step in an open world. Without an outcome it has not ended. -/
abbrev OpenAction (α : Type) := OpenWorld → Option (Except Fault α × OpenWorld)

namespace OpenAction

variable {α β : Type}

/-- The step that does nothing. -/
def pure (a : α) : OpenAction α := fun o => some (.ok a, o)

/-- The step that faults. -/
def fail (e : Fault) : OpenAction α := fun o => some (.error e, o)

/-- The step that does not end. -/
def diverge : OpenAction α := fun _ => none

/-- One step and, unless it faults, the step that its value asks for. -/
def bind (x : OpenAction α) (f : α → OpenAction β) : OpenAction β := fun o =>
  match x o with
  | some (.ok a, o) => f a o
  | some (.error e, o) => some (.error e, o)
  | none => none

/-- A step that only checks, without the world. -/
def check (r : Except Fault α) : OpenAction α := fun o => some (r, o)

/-- A step that only looks at the world, and may fault over it. -/
def look (f : OpenWorld → Except Fault α) : OpenAction α := fun o => some (f o, o)

/-- A step that reads the world. -/
def view (f : OpenWorld → α) : OpenAction α := fun o => some (.ok (f o), o)

/-- A step that changes the world. -/
def modify (f : OpenWorld → OpenWorld) : OpenAction Unit := fun o => some (.ok (), f o)

instance : Monad OpenAction where
  pure := OpenAction.pure
  bind := OpenAction.bind

/-- A step of the plain world that leaves variables aside. -/
def beside (x : Action α) : OpenAction α := fun o =>
  let (r, base) := x o.base
  some (r, ⟨base, o.held⟩)

theorem bind_assoc {γ : Type} (x : OpenAction α) (f : α → OpenAction β) (g : β → OpenAction γ) :
    bind (bind x f) g = bind x fun a => bind (f a) g := by
  funext o
  unfold bind
  rcases x o with _ | ⟨e | a, o'⟩ <;> rfl

end OpenAction

/-! ### Arguments -/

/-- What a command wants an argument to be. -/
inductive Wanted where
  | value
  | text
  | optionalText
  | boolean
  | number
  | integer
  /-- A truth value; another one is the fault of a condition. -/
  | condition
deriving DecidableEq, Repr

namespace Wanted

/-- The kinds that an argument may have. -/
def kinds : Wanted → List Kind
  | .value | .condition => [.string, .integer, .float, .bool, .null]
  | .text => Call.textKinds
  | .optionalText => Call.optionalTextKinds
  | .boolean => [.bool]
  | .number | .integer => Call.numberKinds

/-- Checks the value of the argument `e`. -/
def check (wanted : Wanted) (call : Call) (parameter : String) (e : Expr) (v : Value) :
    Except Fault Unit :=
  match wanted with
  | .value => (call.ofKind [v] 0 parameter wanted.kinds).map fun _ => ()
  | .text => (call.text [v] 0 parameter).map fun _ => ()
  | .optionalText => (call.optionalText [v] 0 parameter).map fun _ => ()
  | .boolean => (call.boolean [v] 0 parameter).map fun _ => ()
  | .number => (call.number [v] 0 parameter).map fun _ => ()
  | .integer => (call.integer [v] 0 parameter).map fun _ => ()
  | .condition => (truth e.render v).map fun _ => ()

/-- The fault of the argument `e` if its value is a call again. -/
def refuse (wanted : Wanted) (call : Call) (parameter : String) (e : Expr) : Fault :=
  match wanted with
  | .condition => .notBoolean e.render .call
  | _ => .argumentKind call.name parameter wanted.kinds .call

end Wanted

/-- What commands ask of an argument, and by which name they speak of it. -/
abbrev Want := String × Wanted

/-- What a command asks of its arguments before it does anything, by their number. It asks for one
argument after the other. `if`, `get` and `getMetadata` ask for others later. -/
def Command.wants (command : Command) (count : Nat) : List Want :=
  match command with
  | .all | .any => List.replicate count ("", .condition)
  | .negate | .choose => [("", .condition)]
  | .equals | .compare _ => [("left", .value), ("right", .value)]
  | .addScore => [("name", .text), ("value", .number)]
  | .capScore => [("name", .text), ("limit", .number)]
  | .getScore => [("name", .text)]
  | .set =>
    if count = 3 then [("name", .text), ("key", .optionalText), ("value", .value)]
    else [("name", .text), ("value", .value)]
  | .get => if 1 < count then [("name", .text), ("key", .optionalText)] else [("name", .text)]
  | .append =>
    if count = 3 then [("name", .text), ("key", .optionalText), ("text", .text)]
    else [("name", .text), ("text", .text)]
  | .isSelected => [("optionId", .text)]
  | .isAnswered | .isHidden => [("questionId", .text)]
  | .setHidden => [("questionId", .text), ("hidden", .boolean)]
  | .setHiddenRange => [("low", .text), ("high", .text), ("hidden", .boolean)]
  | .arrayAdd =>
    if count = 3 then [("name", .text), ("value", .text), ("unique", .boolean)]
    else [("name", .text), ("value", .text)]
  | .arrayRemove | .arrayContains => [("name", .text), ("value", .text)]
  | .arrayLength | .arrayClear => [("name", .text)]
  | .arrayGet => [("name", .text), ("index", .integer)]
  | .createBadge => ("name", .text) :: List.replicate (count - 1) ("class", .text)
  | .awardBadge => [("name", .text), ("class", .text)]
  | .revokeBadge | .getBadge => [("name", .text)]
  | .hasBadge => if count = 2 then [("name", .text), ("class", .text)] else [("name", .text)]
  | .addRecommendation =>
    [("id", .text), ("order", .integer), ("title", .text), ("text", .text)] ++
      if count = 5 then [("tags", .text)] else []
  | .removeRecommendation | .hasRecommendation => [("id", .text)]
  | .createSubcoach =>
    [("coachId", .text), ("instanceId", .text)] ++
      if count = 3 then [("argument", .optionalText)] else []
  | .removeSubcoach => [("coachId", .text), ("instanceId", .text)]
  | .getParentArgument => []
  | .getSubcoachVariable => [("coachId", .text), ("instanceId", .text), ("name", .text)]
  | .concat | .log => List.replicate count ("value", .value)
  | .getMetadata => [("group", .text), ("key", .text)]
  | .hasHandler => [("name", .text)]

section Reentry

variable (ask : Expr → OpenAction Expr) (call : Call)

/-- An argument as a command takes it: evaluated by `ask` if it is still a call, and checked. -/
def receive (want : Want) (e : Expr) : OpenAction Value :=
  .bind (if e.isCall then ask e else .pure e) fun r =>
    match r with
    | .value v => .look fun _ => (want.2.check call want.1 e v).map fun _ => v
    | .call .. => .fail (want.2.refuse call want.1 e)

/-- The arguments that a command asks for, in turn. -/
def receiveAll : List Want → List Expr → OpenAction (List Value)
  | want :: wants, e :: es =>
    .bind (receive ask call want e) fun v =>
      .bind (receiveAll wants es) fun vs => .pure (v :: vs)
  | _, _ => .pure []

/-! ### Commands on variables -/

namespace Open

/-- Writes a variable; the value is what was written. -/
def set (vs : List Value) : OpenAction Expr := do
  let name ← .check (call.text vs 0 "name")
  let (key, index) ← .look fun o => Builtin.writeKey call vs o.base
  let e := Expr.value (Call.value vs index)
  .modify fun o => o.write call.target name key e
  return e

/-- The value of a variable, if there is one. -/
def find? (vs : List Value) (o : OpenWorld) : Except Fault (Option Expr) := do
  let name ← call.text vs 0 "name"
  let key ← Builtin.sourceKey call vs 1 o.base
  pure ((o.held call.target).get? name key)

/-- Appends a text to a variable; a call has none. -/
def append (vs : List Value) : OpenAction Expr := do
  let name ← .check (call.text vs 0 "name")
  let (key, index) ← .look fun o => Builtin.writeKey call vs o.base
  let more ← .check (call.text vs index "text")
  let current ← .view fun o =>
    match key with
    | some source => (o.held call.target).own? name source
    | none => (o.held call.target).get? name none
  let e := Expr.value (.string ((current.bind Expr.text?).getD "" ++ more))
  .modify fun o => o.write call.target name key e
  return e

/-- The elements of the array that the call's source keeps under a name. -/
def elements (name : String) (o : OpenWorld) : List String :=
  match ((o.held call.target).own? name (call.source o.base)).bind Expr.text? with
  | some text => ElementList.decode text
  | none => []

/-- Writes the array of the call's source. -/
def writeElements (name : String) (es : List String) (o : OpenWorld) : OpenWorld :=
  o.write call.target name (some (call.source o.base)) (.value (.string (ElementList.encode es)))

/-- Appends an element, if asked for only where it is not there. -/
def arrayAdd (vs : List Value) : OpenAction Expr := do
  let name ← .check (call.text vs 0 "name")
  let element ← .check (call.text vs 1 "value")
  let unique ← .check (Builtin.uniqueFlag call vs)
  if element.isEmpty then .fail (call.invalid "array elements cannot be empty")
  else
    let es ← .view (elements call name)
    if unique && es.contains element then return .value (.ofInt es.length)
    else
      .modify (writeElements call name (es ++ [element]))
      return .value (.ofInt (es.length + 1))

/-- Removes every element equal to a text. -/
def arrayRemove (vs : List Value) : OpenAction Expr := do
  let name ← .check (call.text vs 0 "name")
  let element ← .check (call.text vs 1 "value")
  let es ← .view (elements call name)
  if es.contains element then
    .modify (writeElements call name (es.filter (· != element)))
    return .value (.bool true)
  else return .value (.bool false)

/-- The number of elements. -/
def arrayLength (vs : List Value) (o : OpenWorld) : Except Fault Expr := do
  let name ← call.text vs 0 "name"
  pure (.value (.ofInt (elements call name o).length))

/-- Whether a text is an element. -/
def arrayContains (vs : List Value) (o : OpenWorld) : Except Fault Expr := do
  let name ← call.text vs 0 "name"
  let element ← call.text vs 1 "value"
  pure (.value (.bool ((elements call name o).contains element)))

/-- The element at a place, counted from zero, or `NULL`. -/
def arrayGet (vs : List Value) (o : OpenWorld) : Except Fault Expr := do
  let name ← call.text vs 0 "name"
  let index ← call.integer vs 1 "index"
  pure (.value (.ofText? (if index < 0 then none else (elements call name o)[index.toNat]?)))

/-- Removes every element. -/
def arrayClear (vs : List Value) : OpenAction Expr := do
  let name ← .check (call.text vs 0 "name")
  .modify (writeElements call name [])
  return .value (.ofInt 0)

/-- The latest value of a variable of an instance below, or `NULL`. -/
def getSubcoachVariable (vs : List Value) (o : OpenWorld) : Except Fault Expr := do
  let (coachId, instanceId) ← Builtin.instanceIds call vs
  let name ← call.text vs 2 "name"
  match (call.context o.base).handle? coachId instanceId with
  | none => throw (.unknownInstance coachId instanceId)
  | some handle => pure (((o.held handle.context).get? name none).getD (.value .null))

/-- A piece of metadata, if there is one. -/
def metadata? (vs : List Value) (o : OpenWorld) : Except Fault (Option Expr) := do
  let group ← call.text vs 0 "group"
  let key ← call.text vs 1 "key"
  let text? ← ofHost (o.base.host.metadataOf (call.context o.base).name group key)
  pure (text?.map fun text => .value (.string text))

end Open

/-! ### Evaluation -/

/-- What is found, or else the third argument, which is asked for only then, or else `NULL`. -/
def orDefault (args : List Expr) (found? : Option Expr) : OpenAction Expr :=
  match found?, args[2]? with
  | some e, _ => .pure e
  | none, some e => .bind (receive ask call ("default", .value) e) fun v => .pure (.value v)
  | none, none => .pure (.value .null)

/-- What a command does with the arguments `vs` that it asked for, out of `args`. -/
def Command.proceed (command : Command) (args : List Expr) (vs : List Value) : OpenAction Expr :=
  match command with
  | .choose =>
    match args[if vs = [.bool true] then 1 else 2]? with
    | some branch => ask branch
    | none => .pure (.value .null)
  | .get => .bind (.look (Open.find? call vs)) (orDefault ask call args)
  | .getMetadata => .bind (.look (Open.metadata? call vs)) (orDefault ask call args)
  | .set => Open.set call vs
  | .append => Open.append call vs
  | .arrayAdd => Open.arrayAdd call vs
  | .arrayRemove => Open.arrayRemove call vs
  | .arrayLength => .look (Open.arrayLength call vs)
  | .arrayContains => .look (Open.arrayContains call vs)
  | .arrayGet => .look (Open.arrayGet call vs)
  | .arrayClear => Open.arrayClear call vs
  | .getSubcoachVariable => .look (Open.getSubcoachVariable call vs)
  | command => .bind (.beside (command.run call vs)) fun v => .pure (.value v)

/-- A command with arguments of which some may be calls. -/
def Command.execute (command : Command) (args : List Expr) : OpenAction Expr :=
  .bind (receiveAll ask call (command.wants args.length) args) (command.proceed ask call args)

/-- The first arguments are evaluated, as many as `eager` says, and the others left as they are. -/
def resolveArgs (eager : Nat) : List Expr → OpenAction (List Expr)
  | [] => .pure []
  | e :: es =>
    .bind (if 0 < eager ∧ e.isCall then ask e else .pure e) fun r =>
      .bind (resolveArgs (eager - 1) es) fun rs => .pure (r :: rs)

end Reentry

/-- The value of an expression, as long as calls are nested no deeper than `depth`. -/
def reenter (scene : Scene) : Nat → Expr → OpenAction Expr
  | _, .value v => .pure (.value v)
  | 0, .call .. => .diverge
  | depth + 1, .call path name args =>
    match scene.commands.find? name with
    | none => .fail (.unknownCommand name)
    | some command =>
      if command.arity.accepts args.length then
        .bind (resolveArgs (reenter scene depth)
            (min (command.eagerArguments?.getD args.length) args.length) args) fun resolved o =>
          command.execute (reenter scene depth)
            ⟨name, scene, o.base.contexts.resolve scene.active path⟩ resolved o
      else .fail (.arity name command.arity.text args.length)

/-! ### More depth -/

/-- Where `x` ends, `y` ends with the same outcome in the same world. -/
def OpenAction.Below {α : Type} (x y : OpenAction α) : Prop := ∀ o r, x o = some r → y o = some r

namespace OpenAction.Below

variable {α β : Type}

theorem refl (x : OpenAction α) : x.Below x := fun _ _ h => h

theorem bind {x y : OpenAction α} {f g : α → OpenAction β} (h : x.Below y)
    (hf : ∀ a, (f a).Below (g a)) : (OpenAction.bind x f).Below (.bind y g) := by
  intro o r hr
  unfold OpenAction.bind at hr ⊢
  rcases hx : x o with _ | ⟨e | a, o'⟩
  · rw [hx] at hr
    cases hr
  · rw [hx] at hr
    rw [h o _ hx]
    exact hr
  · rw [hx] at hr
    rw [h o _ hx]
    exact hf a o' r hr

theorem ite {c : Prop} [Decidable c] {x y x' y' : OpenAction α} (hx : x.Below y)
    (hx' : x'.Below y') : (if c then x else x').Below (if c then y else y') := by
  split_ifs
  · exact hx
  · exact hx'

end OpenAction.Below

section Below

variable {ask ask' : Expr → OpenAction Expr} (h : ∀ e, (ask e).Below (ask' e)) (call : Call)
include h

theorem receive_below (want : Want) (e : Expr) :
    (receive ask call want e).Below (receive ask' call want e) :=
  .bind (.ite (h e) (.refl _)) fun _ => .refl _

theorem receiveAll_below (wants : List Want) (es : List Expr) :
    (receiveAll ask call wants es).Below (receiveAll ask' call wants es) := by
  induction wants generalizing es with
  | nil => exact .refl _
  | cons want wants ih =>
    cases es with
    | nil => exact .refl _
    | cons e es => exact .bind (receive_below h call want e) fun _ => .bind (ih es) fun _ => .refl _

theorem orDefault_below (args : List Expr) (found? : Option Expr) :
    (orDefault ask call args found?).Below (orDefault ask' call args found?) := by
  unfold orDefault
  split
  · exact .refl _
  · exact .bind (receive_below h call _ _) fun _ => .refl _
  · exact .refl _

theorem proceed_below (command : Command) (args : List Expr) (vs : List Value) :
    (command.proceed ask call args vs).Below (command.proceed ask' call args vs) := by
  cases command with
  | choose =>
    unfold Command.proceed
    dsimp only
    split
    · exact h _
    · exact .refl _
  | get | getMetadata => exact .bind (.refl _) fun _ => orDefault_below h call args _
  | _ => exact .refl _

theorem execute_below (command : Command) (args : List Expr) :
    (command.execute ask call args).Below (command.execute ask' call args) :=
  .bind (receiveAll_below h call _ args) fun vs => proceed_below h call command args vs

theorem resolveArgs_below (eager : Nat) (es : List Expr) :
    (resolveArgs ask eager es).Below (resolveArgs ask' eager es) := by
  induction es generalizing eager with
  | nil => exact .refl _
  | cons e es ih => exact .bind (.ite (h e) (.refl _)) fun _ => .bind (ih _) fun _ => .refl _

end Below

/-- **More depth does not change an outcome.** -/
theorem reenter_mono (scene : Scene) {depth depth' : Nat} (h : depth ≤ depth') (e : Expr) :
    (reenter scene depth e).Below (reenter scene depth' e) := by
  induction depth generalizing depth' e with
  | zero =>
    cases e with
    | value v => cases depth' <;> exact .refl _
    | call path name args => exact fun o r hr => nomatch hr
  | succ depth ih =>
    obtain ⟨depth', rfl⟩ := Nat.exists_eq_add_of_le' h
    have hask (e : Expr) : (reenter scene depth e).Below (reenter scene (depth' + depth) e) :=
      ih (Nat.le_add_left _ _) e
    cases e with
    | value v => exact .refl _
    | call path name args =>
      show OpenAction.Below (reenter scene (depth + 1) _) (reenter scene (depth' + depth + 1) _)
      unfold reenter
      split
      · exact .refl _
      · refine .ite (.bind (resolveArgs_below hask _ args) fun resolved o => ?_) (.refl _)
        exact execute_below hask _ _ resolved o

end CoachScript
