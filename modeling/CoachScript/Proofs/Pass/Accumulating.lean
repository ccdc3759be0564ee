import CoachScript.Proofs.Pass.Editing
import CoachScript.Proofs.Pass.Reverting

/-!
# Texts in the contexts above

Evaluating a question anew takes back the variables of its own context only. What `append` and
`arrayAdd` keep in a context above, they go on from.

* `EditCall`, `EditLine`: calls of the two commands with literal arguments and without a key, and
  lines made of them.
* `carried`: the edits that a pass over such lines carries out, which no state of the world changes.
* `values_runLines`: **a pass makes these edits of the values that its source keeps**.
* `values_runQuestion_iterate`: **evaluated again and again, the edits add up; the values stay the
  same from the first evaluation on if and only if every edit is repeatable**.
-/

namespace CoachScript

open CoachScript.Action

/-! ### Calls and lines -/

/-- A call that edits a text, with literal arguments and without a key. -/
inductive EditCall where
  | append (name text : Value)
  | arrayAdd (name element : Value) (unique : Option Value)
deriving DecidableEq, Repr

/-- A literal, or a call that edits a text. -/
inductive EditExpr where
  | literal (v : Value)
  | call (c : EditCall)
deriving DecidableEq, Repr

/-- A line of literals and of calls that edit a text. -/
structure EditLine where
  condition : EditExpr
  name : String
  statements : List EditExpr
deriving DecidableEq, Repr

/-- The value can be given for a text. -/
def Value.isTextual (v : Value) : Bool := v.kind ∈ Call.textKinds

namespace EditCall

/-- The call with a given path. -/
def expr (path : Path) : EditCall → Expr
  | .append name text => .call path "append" ([name, text].map .value)
  | .arrayAdd name element unique =>
    .call path "arrayAdd" ((name :: element :: unique.toList).map .value)

/-- The variable and its edit, unless the call faults. -/
def edit? : EditCall → Option (String × Edit)
  | .append name text =>
    if name.isTextual && text.isTextual then
      some (name.textOrEmpty, .append text.textOrEmpty)
    else none
  | .arrayAdd name element unique =>
    if name.isTextual && element.isTextual && unique.all (·.kind == .bool) then
      if element.textOrEmpty.isEmpty then none
      else some (name.textOrEmpty, .add element.textOrEmpty (unique == some (.bool true)))
    else none

end EditCall

namespace EditExpr

/-- The expression, its call with a given path. -/
def expr (path : Path) : EditExpr → Expr
  | .literal v => .value v
  | .call c => c.expr path

/-- The edit of the expression, if it is a call that does not fault. -/
def edit? : EditExpr → Option (String × Edit)
  | .literal _ => none
  | .call c => c.edit?

/-- The expression does not fault. -/
def succeeds : EditExpr → Bool
  | .literal _ => true
  | .call c => c.edit?.isSome

end EditExpr

/-- The line, its calls with a given path. -/
def EditLine.line (path : Path) (l : EditLine) : Line :=
  ⟨l.condition.expr path, l.name, l.statements.map (·.expr path)⟩

/-- The edits of expressions in turn, up to the first that faults. -/
def carriedAll : List EditExpr → List (String × Edit)
  | [] => []
  | e :: es => e.edit?.toList ++ if e.succeeds then carriedAll es else []

/-- The line starts its statements, given the names that have started. -/
def EditLine.starts (l : EditLine) (fired : Fired) : Bool :=
  l.condition == .literal (.bool true) && fired.allows l.name

/-- The edits of a line. Only the literal `TRUE` is a condition that holds; a call as a condition
does its edit, and faults. -/
def EditLine.edits (l : EditLine) (fired : Fired) : List (String × Edit) :=
  l.condition.edit?.toList ++ if l.starts fired then carriedAll l.statements else []

/-- The edits of a pass, given the names that have started. -/
def carried (fired : Fired) : List EditLine → List (String × Edit)
  | [] => []
  | l :: more =>
    l.edits fired ++ carried (if l.starts fired then fired.fire l.name else fired) more

theorem EditCall.valid_edit? {c : EditCall} {e : String × Edit} (h : c.edit? = some e) :
    e.2.valid := by
  cases c with
  | append name text =>
    rw [edit?] at h
    split_ifs at h
    cases h
    rfl
  | arrayAdd name element unique =>
    rw [edit?] at h
    split_ifs at h with _ hempty
    cases h
    simpa [Edit.valid] using hempty

theorem EditExpr.valid_edit? {e : EditExpr} : ∀ d ∈ e.edit?.toList, d.2.valid := by
  intro d hd
  cases e with
  | literal v => cases hd
  | call c => exact EditCall.valid_edit? (Option.mem_toList.mp hd)

theorem valid_carriedAll (es : List EditExpr) : ∀ d ∈ carriedAll es, d.2.valid := by
  induction es with
  | nil => nofun
  | cons e es ih =>
    intro d hd
    rcases List.mem_append.mp hd with hhere | hmore
    · exact EditExpr.valid_edit? d hhere
    · split_ifs at hmore with hsucceeds
      · exact ih d hmore
      · cases hmore

theorem valid_carried (fired : Fired) (lines : List EditLine) :
    ∀ d ∈ carried fired lines, d.2.valid := by
  induction lines generalizing fired with
  | nil => nofun
  | cons l more ih =>
    intro d hd
    rcases List.mem_append.mp hd with hline | hmore
    · rcases List.mem_append.mp hline with hcondition | hstatements
      · exact EditExpr.valid_edit? d hcondition
      · split_ifs at hstatements with hstarts
        · exact valid_carriedAll l.statements d hstatements
        · cases hstatements
    · exact ih _ d hmore

/-! ### The values of a source -/

namespace Variable

variable {α : Type} (v : Variable α) (source : String) (value : α)

theorem own?_put : (v.put (some source) value).own? source = some value := by
  have hold : (v.writes.filter (·.source != some source)).find? (·.source == some source)
      = none := by
    rw [List.find?_eq_none]
    intro x hx
    simpa using (List.mem_filter.mp hx).2
  have hnew : [(⟨some source, value⟩ : Write α)].find? (·.source == some source)
      = some ⟨some source, value⟩ := List.find?_cons_of_pos (by simp)
  unfold put own?
  rw [List.find?_append, hold, hnew]
  rfl

theorem own?_put_of_ne {other : String} (h : source ≠ other) :
    (v.put (some source) value).own? other = v.own? other := by
  have hnew : [(⟨some source, value⟩ : Write α)].find? (·.source == some other) = none := by
    simpa using h
  have hold : (v.writes.filter (·.source != some source)).find? (·.source == some other) =
      v.writes.find? (·.source == some other) := by
    rw [List.find?_filter]
    congr 1
    funext w
    by_cases hw : w.source = some other
    · simp [hw, Ne.symm h]
    · simp [hw]
  unfold put own?
  rw [List.find?_append, hold, hnew, Option.or_none]

end Variable

namespace World

variable {w w' w'' : World} {target : ContextId} {source : String}

/-- The values that a source keeps in a context, by name. -/
def kept (w : World) (id : ContextId) (source : String) : String → Option Value :=
  fun name => (w.get id).memory.own? name source

theorem get_write (call : Call) (name : String) (v : Value)
    (hmade : call.target < w.contexts.made.size) :
    (Builtin.write call name (some source) v w).get call.target =
      { w.get call.target with memory := (w.get call.target).memory.set name (some source) v } := by
  unfold Builtin.write World.get World.modify
  rw [Contexts.get_modify, if_pos ⟨rfl, hmade⟩]

theorem kept_write (call : Call) (name : String) (v : Value)
    (hmade : call.target < w.contexts.made.size) :
    (Builtin.write call name (some source) v w).kept call.target source =
      fun other => if name = other then some v else w.kept call.target source other := by
  funext other
  unfold kept
  rw [get_write call name v hmade]
  dsimp only
  rw [Variables.own?_eq, Variables.lookup_set]
  split_ifs with hother
  · exact Variable.own?_put _ source v
  · exact (Variables.own?_eq _ other source).symm

/-- What other sources keep stays as it is. -/
theorem kept_write_of_ne (call : Call) (name : String) (v : Value)
    (hmade : call.target < w.contexts.made.size) {other : String} (h : source ≠ other) :
    (Builtin.write call name (some source) v w).kept call.target other =
      w.kept call.target other := by
  funext written
  unfold kept
  rw [get_write call name v hmade]
  dsimp only
  rw [Variables.own?_eq, Variables.own?_eq, Variables.lookup_set]
  split_ifs with hname
  · rw [← hname]
    exact Variable.own?_put_of_ne _ source v h
  · rfl

variable (target source) in
/-- The world after edits of what a source keeps in a context. -/
structure Edited (edits : List (String × Edit)) (w w' : World) : Prop where
  frame : w.SameFrame w'
  values : w'.kept target source = applyAll edits (w.kept target source)

namespace Edited

theorem refl (w : World) : Edited target source [] w w := ⟨.refl w, rfl⟩

theorem trans {edits more : List (String × Edit)} (h : Edited target source edits w w')
    (h' : Edited target source more w' w'') : Edited target source (edits ++ more) w w'' :=
  ⟨h.frame.trans h'.frame, by rw [h'.values, h.values, applyAll_append]⟩

/-- The names that a pass leaves are no edits. -/
theorem leave (target : ContextId) (source : String) (id : ContextId) (fired : Fired) (w : World) :
    Edited target source [] w (w.leave id fired) := by
  refine ⟨.leave w id fired, ?_⟩
  funext name
  unfold kept
  rw [get_leave]
  rfl

/-- One write, of what an edit makes of the value before. -/
theorem write {call : Call} {name : String} {e : Edit} {v : Value}
    (hmade : call.target < w.contexts.made.size)
    (hv : e.apply (w.kept call.target source name) = some v) :
    Edited call.target source [(name, e)] w (Builtin.write call name (some source) v w) := by
  refine ⟨.modify w _ (fun _ => rfl) (fun _ => rfl) fun _ => rfl, ?_⟩
  rw [kept_write call name v hmade]
  funext other
  by_cases hother : name = other
  · subst hother
    rw [if_pos rfl, ← hv]
    exact (applyTo_self (name, e) _).symm
  · rw [if_neg hother]
    exact (applyTo_of_ne (e := (name, e)) hother _).symm

end Edited

end World

/-! ### Calls -/

theorem Call.text_of_textual {call : Call} {args : List Value} {index : Nat} {parameter : String}
    (h : (Call.value args index).isTextual) :
    call.text args index parameter = .ok (Call.value args index).textOrEmpty := by
  have hkind : (Call.value args index).kind ∈ Call.textKinds := of_decide_eq_true h
  unfold Call.text Call.ofKind
  dsimp only
  rw [if_pos hkind]
  rfl

theorem Call.text_of_not_textual {call : Call} {args : List Value} {index : Nat}
    {parameter : String} (h : (Call.value args index).isTextual = false) :
    ∃ f, call.text args index parameter = .error f := by
  have hkind : (Call.value args index).kind ∉ Call.textKinds := of_decide_eq_false h
  unfold Call.text Call.ofKind
  dsimp only
  rw [if_neg hkind]
  exact ⟨_, rfl⟩

/-- What a call does: nothing if it has no edit, else its edit, with a value that is no truth
value. -/
def Makes (target : ContextId) (source : String) (edit : Option (String × Edit)) (w : World)
    (r : Except Fault Value × World) : Prop :=
  match edit with
  | none => ∃ f, r = (.error f, w)
  | some e => ∃ v, r.1 = .ok v ∧ v.bool? = none ∧ World.Edited target source [e] w r.2

section Calls

variable {call : Call} {w : World} {source : String}

theorem append_makes (hmade : call.target < w.contexts.made.size) (hsource : call.source w = source)
    (name text : Value) :
    Makes call.target source (EditCall.append name text).edit? w
      (Command.append.run call [name, text] w) := by
  show Makes _ _ _ _ (Builtin.append call [name, text] w)
  unfold Builtin.append
  rw [EditCall.edit?]
  cases hname : name.isTextual with
  | false =>
    obtain ⟨f, hf⟩ : ∃ f, call.text [name, text] 0 "name" = .error f :=
      Call.text_of_not_textual hname
    rw [hf]
    exact ⟨f, rfl⟩
  | true =>
    have hkey : call.text [name, text] 0 "name" = .ok name.textOrEmpty :=
      Call.text_of_textual hname
    have hwrite : Builtin.writeKey call [name, text] w = .ok (some source, 1) := by
      rw [← hsource]
      rfl
    rw [hkey, check_bind_ok, look_bind_of_ok hwrite]
    dsimp only
    cases htext : text.isTextual with
    | false =>
      obtain ⟨f, hf⟩ : ∃ f, call.text [name, text] 1 "text" = .error f :=
        Call.text_of_not_textual htext
      rw [hf]
      exact ⟨f, rfl⟩
    | true =>
      have hmore : call.text [name, text] 1 "text" = .ok text.textOrEmpty :=
        Call.text_of_textual htext
      rw [hmore]
      exact ⟨_, rfl, rfl, .write hmade rfl⟩

/-- Adds an element, once the arguments are read. -/
def Builtin.addElement (call : Call) (name element : String) (unique : Bool) : Action Value := do
  if element.isEmpty then .fail (call.invalid "array elements cannot be empty")
  else
    let es ← .view (elements call name)
    if unique && es.contains element then return .ofInt es.length
    else
      .modify (writeElements call name (es ++ [element]))
      return .ofInt (es.length + 1)

theorem addElement_makes (hmade : call.target < w.contexts.made.size)
    (hsource : call.source w = source) (name element : String) (unique : Bool) :
    Makes call.target source
      (if element.isEmpty then none else some (name, .add element unique)) w
      (Builtin.addElement call name element unique w) := by
  have helements : Builtin.elements call name w
      = Edit.elementsOf (w.kept call.target source name) := by
    rw [← hsource]
    rfl
  unfold Builtin.addElement
  cases hempty : element.isEmpty with
  | true => exact ⟨_, rfl⟩
  | false =>
    simp only [Bool.false_eq_true, if_false]
    rw [view_bind, helements]
    cases hknown : unique && (Edit.elementsOf (w.kept call.target source name)).contains element with
    | true =>
      obtain ⟨rfl, hmem⟩ := (Bool.and_eq_true _ _).mp hknown
      refine ⟨_, rfl, rfl, ?_⟩
      show World.Edited _ _ _ w w
      refine ⟨.refl w, ?_⟩
      exact (applyTo_eq_self_iff.mpr (Edit.apply_add_known (by simpa using hmem))).symm
    | false =>
      refine ⟨_, rfl, rfl, ?_⟩
      show World.Edited _ _ _ w (Builtin.writeElements call name _ w)
      unfold Builtin.writeElements
      rw [hsource]
      exact .write hmade (Edit.apply_add_new hknown)

theorem arrayAdd_eq (call : Call) (args : List Value) :
    Builtin.arrayAdd call args =
      (do
        let name ← .check (call.text args 0 "name")
        let element ← .check (call.text args 1 "value")
        let unique ← .check (Builtin.uniqueFlag call args)
        Builtin.addElement call name element unique : Action Value) := rfl

theorem arrayAdd_makes (hmade : call.target < w.contexts.made.size)
    (hsource : call.source w = source) (name element : Value) (unique : Option Value) :
    Makes call.target source (EditCall.arrayAdd name element unique).edit? w
      (Command.arrayAdd.run call (name :: element :: unique.toList) w) := by
  let args := name :: element :: unique.toList
  show Makes _ _ _ _ (Builtin.arrayAdd call args w)
  rw [EditCall.edit?, arrayAdd_eq]
  cases hname : name.isTextual with
  | false =>
    obtain ⟨f, hf⟩ : ∃ f, call.text args 0 "name" = .error f := Call.text_of_not_textual hname
    rw [hf]
    exact ⟨f, rfl⟩
  | true =>
    have hkey : call.text args 0 "name" = .ok name.textOrEmpty := Call.text_of_textual hname
    rw [hkey, check_bind_ok]
    cases helement : element.isTextual with
    | false =>
      obtain ⟨f, hf⟩ : ∃ f, call.text args 1 "value" = .error f :=
        Call.text_of_not_textual helement
      rw [hf]
      exact ⟨f, rfl⟩
    | true =>
      have hvalue : call.text args 1 "value" = .ok element.textOrEmpty :=
        Call.text_of_textual helement
      have hmakes := addElement_makes hmade hsource name.textOrEmpty element.textOrEmpty
      rw [hvalue, check_bind_ok]
      rcases unique with _ | u
      · exact hmakes false
      · rcases u with _ | _ | b | _ | _
        case bool => cases b <;> exact hmakes _
        all_goals exact ⟨_, rfl⟩

end Calls

/-! ### Passes -/

/-- Calls of the scene with the path act in another context, and write under the source. -/
structure Scene.Above (scene : Scene) (path : Path) (target : ContextId) (source : String)
    (w : World) : Prop where
  resolve : w.contexts.resolve scene.active path = target
  ne : target ≠ scene.active
  made : target < w.contexts.made.size
  source : qualifiedSource (w.get scene.active).name scene.question = source

theorem truth_eq_ok_iff {expression : String} {v : Value} :
    truth expression v = .ok true ↔ v = .bool true := by
  cases v with
  | bool b => cases b <;> simp [truth, Value.bool?]
  | _ => simp [truth, Value.bool?]

section Passes

variable {scene : Scene} {path : Path} {target : ContextId} {source : String} {w w' : World}

theorem Scene.Above.of_frame (h : scene.Above path target source w) (hframe : w.SameFrame w') :
    scene.Above path target source w' :=
  ⟨(hframe.resolve _ _).symm.trans h.resolve, h.ne, hframe.size ▸ h.made,
    by rw [← hframe.name, h.source]⟩

variable (happend : scene.commands.find? "append" = some .append)
  (harrayAdd : scene.commands.find? "arrayAdd" = some .arrayAdd)
include happend harrayAdd

theorem evaluate_editCall (h : scene.Above path target source w) (c : EditCall) :
    Makes target source c.edit? w (evaluate scene (c.expr path) w) := by
  have hsource (name : String) : Call.source ⟨name, scene, target⟩ w = source :=
    (if_neg h.ne).trans h.source
  cases c with
  | append name text =>
    rw [EditCall.expr, evaluate, happend]
    dsimp only
    rw [if_pos (by rfl), if_neg (by decide), bind_of_ok (evaluateAll_values scene _ w), h.resolve]
    exact append_makes h.made (hsource _) name text
  | arrayAdd name element unique =>
    rw [EditCall.expr, evaluate, harrayAdd]
    dsimp only
    rw [if_pos (by cases unique <;> rfl), if_neg (by decide),
      bind_of_ok (evaluateAll_values scene _ w), h.resolve]
    exact arrayAdd_makes h.made (hsource _) name element unique

/-- An expression does its edit; it has a value if it is a literal or has one. -/
theorem evaluate_editExpr (h : scene.Above path target source w) (e : EditExpr) :
    World.Edited target source e.edit?.toList w (evaluate scene (e.expr path) w).2 ∧
      ((∃ v, (evaluate scene (e.expr path) w).1 = .ok v) ↔ e.succeeds = true) := by
  cases e with
  | literal v => exact ⟨.refl w, fun _ => rfl, fun _ => ⟨v, rfl⟩⟩
  | call c =>
    have hmakes := evaluate_editCall happend harrayAdd h c
    rw [EditExpr.expr, EditExpr.edit?, EditExpr.succeeds]
    unfold Makes at hmakes
    cases hedit : c.edit? with
    | none =>
      rw [hedit] at hmakes
      obtain ⟨f, hf⟩ := hmakes
      rw [hf]
      exact ⟨.refl w, nofun, nofun⟩
    | some d =>
      rw [hedit] at hmakes
      obtain ⟨v, hv, -, hedited⟩ := hmakes
      exact ⟨hedited, fun _ => rfl, fun _ => ⟨v, hv⟩⟩

theorem evaluateAll_editExprs (h : scene.Above path target source w) (es : List EditExpr) :
    World.Edited target source (carriedAll es) w
      (evaluateAll scene (es.map (·.expr path)) w).2 := by
  induction es generalizing w with
  | nil => exact .refl w
  | cons e es ih =>
    obtain ⟨hedited, hsucceeds⟩ := evaluate_editExpr happend harrayAdd h e
    have hmore := ih (h.of_frame hedited.frame)
    rw [List.map_cons, evaluateAll, carriedAll]
    rcases hfirst : evaluate scene (e.expr path) w with ⟨f | v, w'⟩
    · rw [hfirst] at hedited hsucceeds
      rw [bind_of_error hfirst, if_neg (fun hs => by obtain ⟨v, hv⟩ := hsucceeds.mpr hs; cases hv),
        List.append_nil]
      exact hedited
    · rw [hfirst] at hedited hsucceeds hmore
      rw [bind_of_ok hfirst, world_map, if_pos (hsucceeds.mp ⟨v, rfl⟩)]
      exact hedited.trans hmore

/-- A condition does its edit, and holds if it is the literal `TRUE`. -/
theorem evaluateTruth_editExpr (h : scene.Above path target source w) (e : EditExpr) :
    World.Edited target source e.edit?.toList w (evaluateTruth scene (e.expr path) w).2 ∧
      ((evaluateTruth scene (e.expr path) w).1 = .ok true ↔ e = .literal (.bool true)) := by
  cases e with
  | literal v =>
    refine ⟨.refl w, ?_⟩
    show truth (Expr.value v).render v = .ok true ↔ _
    rw [truth_eq_ok_iff, EditExpr.literal.injEq]
  | call c =>
    have hmakes := evaluate_editCall happend harrayAdd h c
    rw [EditExpr.expr, EditExpr.edit?]
    unfold Makes at hmakes
    cases hedit : c.edit? with
    | none =>
      rw [hedit] at hmakes
      obtain ⟨f, hf⟩ := hmakes
      rw [evaluateTruth, bind_of_error hf]
      exact ⟨.refl w, nofun, nofun⟩
    | some d =>
      rw [hedit] at hmakes
      obtain ⟨v, hv, hbool, hedited⟩ := hmakes
      have hvalue : evaluate scene (c.expr path) w
          = (.ok v, (evaluate scene (c.expr path) w).2) := Prod.ext hv rfl
      rw [evaluateTruth, bind_of_ok hvalue]
      refine ⟨hedited, fun htruth => ?_, nofun⟩
      obtain rfl := truth_eq_ok_iff.mp htruth
      cases hbool

theorem runLine_edited (h : scene.Above path target source w) (fired : Fired) (l : EditLine) :
    World.Edited target source (l.edits fired) w (runLine scene fired (l.line path) w).2 ∧
      (runLine scene fired (l.line path) w).1.started = l.starts fired := by
  obtain ⟨hedited, hholds⟩ := evaluateTruth_editExpr happend harrayAdd h l.condition
  have hmore := evaluateAll_editExprs happend harrayAdd (h.of_frame hedited.frame) l.statements
  unfold runLine EditLine.edits EditLine.starts EditLine.line
  dsimp only
  generalize evaluateTruth scene (l.condition.expr path) w = r at hedited hholds hmore ⊢
  obtain ⟨f | holds, w'⟩ := r
  · have hfalse : (l.condition == .literal (.bool true)) = false :=
      beq_false_of_ne (fun hc => by cases hholds.mpr hc)
    rw [hfalse, Bool.false_and, if_neg Bool.false_ne_true, List.append_nil]
    exact ⟨hedited, rfl⟩
  · have hcondition : (l.condition == .literal (.bool true)) = holds := by
      cases holds with
      | true => exact beq_iff_eq.mpr (hholds.mp rfl)
      | false => exact beq_false_of_ne (fun hc => by cases hholds.mpr hc)
    rw [hcondition]
    dsimp only at hmore ⊢
    by_cases hstarts : holds && fired.allows l.name
    · rw [if_pos hstarts, if_pos hstarts, hstarts]
      generalize evaluateAll scene (l.statements.map (·.expr path)) w' = r at hmore ⊢
      obtain ⟨f | vs, w''⟩ := r
      · exact ⟨hedited.trans hmore, rfl⟩
      · exact ⟨hedited.trans hmore, rfl⟩
    · rw [if_neg hstarts, if_neg hstarts, List.append_nil, Bool.eq_false_of_not_eq_true hstarts]
      exact ⟨hedited, rfl⟩

theorem runFrom_edited (h : scene.Above path target source w) (index : Nat) (fired : Fired)
    (lines : List EditLine) :
    World.Edited target source (carried fired lines) w
      (runFrom scene index fired (lines.map (·.line path)) w).2.2 := by
  induction lines generalizing w index fired with
  | nil => exact .refl w
  | cons l more ih =>
    obtain ⟨hedited, hstarted⟩ := runLine_edited happend harrayAdd h fired l
    have hmore := ih (h.of_frame hedited.frame)
    rw [List.map_cons, runFrom, carried]
    generalize runLine scene fired (l.line path) w = r at hedited hstarted hmore ⊢
    obtain ⟨outcome, w'⟩ := r
    dsimp only at hedited hstarted hmore ⊢
    rw [hstarted]
    exact hedited.trans (hmore (index + 1) (if l.starts fired then fired.fire l.name else fired))

/-- A pass makes its edits of the values that its source keeps. -/
theorem runLines_edited (h : scene.Above path target source w) (lines : List EditLine) :
    World.Edited target source (carried ∅ lines) w
      (runLines scene (lines.map (·.line path)) w).2 := by
  have hedited := runFrom_edited happend harrayAdd h 0 ∅ lines
  have hleave := World.Edited.leave target source scene.active
    (passFired scene (lines.map (·.line path)) w)
    (runFrom scene 0 ∅ (lines.map (·.line path)) w).2.2
  have hpass := hedited.trans hleave
  rwa [List.append_nil] at hpass

end Passes

/-! ### Evaluating again and again -/

/-- Reverting keeps the variables of other contexts. -/
theorem World.kept_revert {scene : Scene} {id : ContextId} (h : id ≠ scene.active) (keep : String)
    (w : World) (source : String) : (w.revert scene keep).kept id source = w.kept id source := by
  have htakes : scene.takesWrite keep id = fun _ _ => false := by
    funext name s
    unfold Scene.takesWrite
    rw [beq_false_of_ne h, Bool.false_and]
  have hview : ((w.revert scene keep).get id).view
      = (w.get id).view.drop (scene.takesWrite keep id) (w.takesEntry scene id) (id == scene.active) :=
    World.view_revert id
  rw [htakes] at hview
  funext name
  have hlookup : ((w.revert scene keep).get id).memory.lookup name
      = ((w.get id).memory.lookup name).drop fun _ => false :=
    congrArg (fun v : ContextView => v.memory name) hview
  unfold World.kept
  rw [Variables.own?_eq, hlookup, Variable.drop_none, ← Variables.own?_eq]

section Iterate

variable {scene : Scene} {path : Path} {target : ContextId} {source : String} {w : World}
  (happend : scene.commands.find? "append" = some .append)
  (harrayAdd : scene.commands.find? "arrayAdd" = some .arrayAdd)
include happend harrayAdd

/-- Evaluating anew does not take back what is kept in a context above: it edits it. -/
theorem runQuestion_edited (h : scene.Above path target source w) (keep : String)
    (lines : List EditLine) :
    World.Edited target source (carried ∅ lines) w
      (runQuestion scene keep (lines.map (·.line path)) w).2 := by
  have hframe := World.SameFrame.revert w scene keep
  have hpass := runLines_edited happend harrayAdd (h.of_frame hframe) lines
  refine ⟨hframe.trans hpass.frame, ?_⟩
  rw [runQuestion, hpass.values, World.kept_revert h.ne]

theorem iterate_runQuestion_edited (h : scene.Above path target source w) (keep : String)
    (lines : List EditLine) (n : Nat) :
    let after := (fun w => (runQuestion scene keep (lines.map (·.line path)) w).2)^[n] w
    w.SameFrame after ∧
      after.kept target source = (applyAll (carried ∅ lines))^[n] (w.kept target source) := by
  induction n with
  | zero => exact ⟨.refl w, rfl⟩
  | succ n ih =>
    obtain ⟨hframe, hkept⟩ := ih
    dsimp only at hframe hkept ⊢
    rw [Function.iterate_succ_apply', Function.iterate_succ_apply', ← hkept]
    have hedited := runQuestion_edited happend harrayAdd (h.of_frame hframe) keep lines
    exact ⟨hframe.trans hedited.frame, hedited.values⟩

end Iterate

/-- **Evaluated again and again, the edits of a question add up in a context above.** What its source
keeps there stays the same from the first evaluation on if and only if every edit is repeatable. -/
theorem kept_iterate_runQuestion (scene : Scene) (keep : String) (path : Path)
    (lines : List EditLine) (w : World)
    (happend : scene.commands.find? "append" = some .append)
    (harrayAdd : scene.commands.find? "arrayAdd" = some .arrayAdd)
    (habove : w.contexts.resolve scene.active path ∈ w.contexts.ancestors scene.active)
    (hmade : w.contexts.resolve scene.active path < w.contexts.made.size) :
    let target := w.contexts.resolve scene.active path
    let source := qualifiedSource (w.get scene.active).name scene.question
    let after (n : Nat) := (fun w => (runQuestion scene keep (lines.map (·.line path)) w).2)^[n] w
    (∀ n, (after n).kept target source
      = (applyAll (carried ∅ lines))^[n] (w.kept target source)) ∧
    ((∀ n, 1 ≤ n → (after n).kept target source = (after 1).kept target source) ↔
      ∀ e ∈ carried ∅ lines, e.2.repeatable) := by
  intro target source after
  have h : scene.Above path target source w :=
    ⟨rfl, w.contexts.lineage.ne_of_mem_ancestors habove, hmade, rfl⟩
  have hkept (n : Nat) :
      (after n).kept target source = (applyAll (carried ∅ lines))^[n] (w.kept target source) :=
    (iterate_runQuestion_edited happend harrayAdd h keep lines n).2
  refine ⟨hkept, ?_⟩
  rw [← applyAll_iterate_iff (valid_carried ∅ lines) (w.kept target source)]
  simp only [hkept, Function.iterate_one]

/-- An instance that appends to a variable of its parent appends again when it is evaluated again. -/
theorem kept_iterate_runQuestion_append :
    let scene : Scene := ⟨1, .ofId "b", "q1", .builtin⟩
    let lines : List EditLine := [⟨.literal (.bool true), "",
      [.call (.append (.string "x") (.string "a"))]⟩]
    let w : World := ⟨.pair "a" "b" "c", ∅, #[]⟩
    let target := w.contexts.resolve scene.active (.levels 1)
    let source := qualifiedSource (w.get scene.active).name scene.question
    let after (n : Nat) :=
      (fun w => (runQuestion scene "sys_" (lines.map (·.line (.levels 1))) w).2)^[n] w
    (after 1).kept target source "x" = some (.string "a") ∧
      ¬ ∀ n, 1 ≤ n → (after n).kept target source = (after 1).kept target source := by
  intro scene lines w target source after
  obtain ⟨hkept, hstable⟩ := kept_iterate_runQuestion scene "sys_" (.levels 1) lines w
    (by decide +kernel) (by decide +kernel) (by decide +kernel) (by decide +kernel)
  have hcarried : carried ∅ lines = [("x", .append "a")] := by decide +kernel
  have hbefore : w.kept target source "x" = none := by decide +kernel
  rw [hcarried] at hkept hstable
  constructor
  · rw [hkept 1]
    show Edit.apply (.append "a") (w.kept target source "x") = _
    rw [hbefore]
    rfl
  · rw [hstable]
    decide

end CoachScript
