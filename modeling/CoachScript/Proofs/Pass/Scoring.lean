import CoachScript.Proofs.Eval.Congruence
import CoachScript.Proofs.Pass.Reverting

/-!
# Scripts that only score

A scoring line has a condition that asks for answers, and statements that contribute literal numbers
to scores. What it contributes depends on nothing that scoring lines change.

* `CommandTable.judges`, `CommandTable.scores`, `Line.scoring`: the conditions, the statements and
  the lines in question.
* **`runLines_scoring`**: from all worlds of one frame a pass makes the same contributions.
* **`entries_runQuestion`**: the contributions to any score after a question was evaluated anew.
-/

namespace CoachScript

open CoachScript.Action

/-! ### Scoring lines -/

/-- The command asks for nothing but truth values, texts and answers. -/
def Command.judges : Command → Bool
  | .all | .any | .negate | .choose | .equals | .compare _ | .concat | .isSelected
  | .isAnswered => true
  | _ => false

/-- The command contributes to a score. -/
def Command.scores : Command → Bool
  | .addScore | .capScore => true
  | _ => false

namespace CommandTable

variable (t : CommandTable)

/-- The name stands for a command that asks for answers. -/
def judges (_ : Path) (name : String) (_ : List Expr) : Bool := (t.find? name).any Command.judges

/-- The statement contributes to a score, by literals. -/
def scores : Expr → Bool
  | .value _ => false
  | .call _ name args => (t.find? name).any Command.scores && args.all (!·.isCall)

end CommandTable

/-- The line only asks for answers and contributes to scores. -/
def Line.scoring (t : CommandTable) (line : Line) : Bool :=
  line.condition.every t.judges && line.statements.all t.scores

/-! ### Contributions -/

/-- A contribution to a score, by the path of its call. -/
structure Contribution where
  path : Path
  name : String
  entry : ScoreEntry

namespace Scene

variable (scene : Scene)

/-- Makes a contribution. -/
def contribute (w : World) (c : Contribution) : World :=
  (Builtin.contribute ⟨"", scene, w.contexts.resolve scene.active c.path⟩ c.name c.entry w).2

/-- Makes contributions in turn. -/
def contributeAll (cs : List Contribution) (w : World) : World := cs.foldl scene.contribute w

theorem contributeAll_append (cs ds : List Contribution) (w : World) :
    scene.contributeAll (cs ++ ds) w = scene.contributeAll ds (scene.contributeAll cs w) :=
  List.foldl_append

theorem sameFrame_contribute (w : World) (c : Contribution) :
    World.SameFrame w (scene.contribute w c) :=
  World.SameFrame.modify w _ (fun _ => rfl) (fun _ => rfl) fun _ => rfl

theorem sameFrame_contributeAll (cs : List Contribution) (w : World) :
    World.SameFrame w (scene.contributeAll cs w) := by
  induction cs generalizing w with
  | nil => exact .refl w
  | cons c cs ih => exact (scene.sameFrame_contribute w c).trans (ih _)

end Scene

/-! ### Conditions -/

section Conditions

variable {scene : Scene}

/-- In two worlds of one frame the commands of conditions see the same, and change nothing. -/
theorem inStep_judges {w w' : World} (h : World.SameFrame w w') :
    InStep scene scene scene.commands.judges (fun v v' => v = w ∧ v' = w') where
  question := rfl
  commands := rfl
  run path name args command hjudges hfind hchoose vs := by
    rintro v v' ⟨rfl, rfl⟩
    unfold CommandTable.judges at hjudges
    rw [hfind, Option.any_some] at hjudges
    dsimp only
    rw [h.resolve]
    have hshown : ∀ call question, Builtin.shownAnswer call question v =
        Builtin.shownAnswer call question v' := by
      intro call question
      unfold Builtin.shownAnswer Call.context
      dsimp only
      rw [h.hidden, h.name, h.host]
    cases command with
    | all | any | negate | equals | compare | concat => exact ⟨rfl, rfl, rfl⟩
    | choose => exact absurd rfl hchoose
    | isSelected =>
      refine ⟨?_, rfl, rfl⟩
      show Builtin.isSelected _ vs v = Builtin.isSelected _ vs v'
      unfold Builtin.isSelected
      simp only [hshown]
    | isAnswered =>
      refine ⟨?_, rfl, rfl⟩
      show Builtin.isAnswered _ vs v = Builtin.isAnswered _ vs v'
      unfold Builtin.isAnswered
      simp only [hshown]
    | _ => cases hjudges

theorem evaluateTruth_judges (e : Expr) (he : e.every scene.commands.judges) {w w' : World}
    (h : World.SameFrame w w') : evaluateTruth scene e w' = ((evaluateTruth scene e w).1, w') := by
  obtain ⟨hvalue, -, hworld⟩ := evaluateTruth_related (inStep_judges h) e he w w' ⟨rfl, rfl⟩
  exact Prod.ext hvalue.symm hworld

end Conditions

/-! ### Statements, lines and passes -/

section Passes

variable (scene : Scene)

theorem evaluateAll_literals (es : List Expr) (h : es.all (!·.isCall)) :
    ∃ vs, ∀ w, evaluateAll scene es w = (.ok vs, w) := by
  suffices ∃ vs : List Value, es = vs.map .value by
    obtain ⟨vs, rfl⟩ := this
    exact ⟨vs, evaluateAll_values scene vs⟩
  induction es with
  | nil => exact ⟨[], rfl⟩
  | cons e es ih =>
    rw [List.all_cons, Bool.and_eq_true] at h
    obtain ⟨vs, rfl⟩ := ih h.2
    cases e with
    | call path name args => cases h.1
    | value v => exact ⟨v :: vs, rfl⟩

/-- What the two commands that score have in common. -/
def Builtin.scoreBy (parameter : String) (entry : Decimal → ScoreEntry) (call : Call)
    (args : List Value) : Action Value := do
  let name ← .check (call.text args 0 "name")
  let number ← .check (call.number args 1 parameter)
  Builtin.contribute call name (entry number)

/-- On given arguments it faults wherever the call acts, or contributes the same everywhere. -/
theorem scoreBy_cases (parameter : String) (entry : Decimal → ScoreEntry) (name : String)
    (vs : List Value) :
    (∃ f, ∀ target w,
        Builtin.scoreBy parameter entry ⟨name, scene, target⟩ vs w = (.error f, w)) ∨
      ∃ c : String × ScoreEntry, ∀ target w, ∃ v,
        Builtin.scoreBy parameter entry ⟨name, scene, target⟩ vs w =
          (.ok v, (Builtin.contribute ⟨name, scene, target⟩ c.1 c.2 w).2) := by
  -- Where the call acts does not matter to the reading of its arguments.
  let call : Call := ⟨name, scene, scene.active⟩
  rcases htext : call.text vs 0 "name" with f | score
  · refine .inl ⟨f, fun target w => ?_⟩
    have h : Call.text ⟨name, scene, target⟩ vs 0 "name" = .error f := htext
    unfold Builtin.scoreBy
    rw [h]
    rfl
  rcases hnumber : call.number vs 1 parameter with f | number
  · refine .inl ⟨f, fun target w => ?_⟩
    have h : Call.text ⟨name, scene, target⟩ vs 0 "name" = .ok score := htext
    have h' : Call.number ⟨name, scene, target⟩ vs 1 parameter = .error f := hnumber
    unfold Builtin.scoreBy
    rw [h, h']
    rfl
  · refine .inr ⟨(score, entry number), fun target w => ?_⟩
    have h : Call.text ⟨name, scene, target⟩ vs 0 "name" = .ok score := htext
    have h' : Call.number ⟨name, scene, target⟩ vs 1 parameter = .ok number := hnumber
    unfold Builtin.scoreBy
    rw [h, h']
    exact ⟨_, rfl⟩

theorem run_scores (name : String) (vs : List Value) {command : Command} (h : command.scores) :
    (∃ f, ∀ target w, command.run ⟨name, scene, target⟩ vs w = (.error f, w)) ∨
      ∃ c : String × ScoreEntry, ∀ target w, ∃ v, command.run ⟨name, scene, target⟩ vs w =
        (.ok v, (Builtin.contribute ⟨name, scene, target⟩ c.1 c.2 w).2) := by
  cases command with
  | addScore => exact scoreBy_cases scene "value" .value name vs
  | capScore => exact scoreBy_cases scene "limit" .cap name vs
  | _ => cases h

/-- A statement that scores faults in every world, or makes one contribution in every world. -/
theorem evaluate_scores (e : Expr) (h : scene.commands.scores e) :
    (∃ f, ∀ w, evaluate scene e w = (.error f, w)) ∨
      ∃ c, ∀ w, ∃ v, evaluate scene e w = (.ok v, scene.contribute w c) := by
  cases e with
  | value v => cases h
  | call path name args =>
    obtain ⟨hname, hargs⟩ := (Bool.and_eq_true _ _).mp h
    obtain ⟨vs, hvs⟩ := evaluateAll_literals scene args hargs
    unfold evaluate
    cases hfind : scene.commands.find? name with
    | none => rw [hfind] at hname; cases hname
    | some command =>
      rw [hfind, Option.any_some] at hname
      dsimp only
      by_cases harity : command.arity.accepts args.length
      · rw [if_pos harity, if_neg fun h => by rw [h] at hname; cases hname]
        simp only [bind_of_ok (hvs _)]
        rcases run_scores scene name vs hname with ⟨f, hf⟩ | ⟨c, hc⟩
        · exact .inl ⟨f, fun w => hf _ w⟩
        · exact .inr ⟨⟨path, c.1, c.2⟩, fun w => hc _ w⟩
      · rw [if_neg harity]
        exact .inl ⟨_, fun w => rfl⟩

theorem evaluateAll_scores (es : List Expr) (h : es.all scene.commands.scores) :
    ∃ cs, ∀ w, (evaluateAll scene es w).2 = scene.contributeAll cs w := by
  induction es with
  | nil => exact ⟨[], fun _ => rfl⟩
  | cons e es ih =>
    rw [List.all_cons, Bool.and_eq_true] at h
    obtain ⟨cs, hcs⟩ := ih h.2
    unfold evaluateAll
    rcases evaluate_scores scene e h.1 with ⟨f, hf⟩ | ⟨c, hc⟩
    · exact ⟨[], fun w => by rw [bind_of_error (hf w)]; rfl⟩
    · refine ⟨c :: cs, fun w => ?_⟩
      obtain ⟨v, hv⟩ := hc w
      rw [bind_of_ok hv, world_map, hcs]
      rfl

/-- What a scoring line does is the same in all worlds of one frame. -/
theorem runLine_scoring (fired : Fired) (line : Line) (h : line.scoring scene.commands) (w : World) :
    ∃ cs started, ∀ w', World.SameFrame w w' →
      (runLine scene fired line w').2 = scene.contributeAll cs w' ∧
        (runLine scene fired line w').1.started = started := by
  obtain ⟨hcondition, hstatements⟩ := (Bool.and_eq_true _ _).mp h
  obtain ⟨cs, hcs⟩ := evaluateAll_scores scene line.statements hstatements
  have hjudges : ∀ w', World.SameFrame w w' → evaluateTruth scene line.condition w' =
      ((evaluateTruth scene line.condition w).1, w') :=
    fun _ hw' => evaluateTruth_judges line.condition hcondition hw'
  unfold runLine
  generalize (evaluateTruth scene line.condition w).1 = r at hjudges
  rcases r with e | holds
  · refine ⟨[], false, fun w' hw' => ?_⟩
    rw [hjudges w' hw']
    exact ⟨rfl, rfl⟩
  by_cases hfire : holds && fired.allows line.name
  · refine ⟨cs, true, fun w' hw' => ?_⟩
    rw [hjudges w' hw']
    dsimp only
    rw [if_pos hfire, ← hcs w']
    rcases evaluateAll scene line.statements w' with ⟨e | vs, w''⟩ <;> exact ⟨rfl, rfl⟩
  · refine ⟨[], false, fun w' hw' => ?_⟩
    rw [hjudges w' hw']
    dsimp only
    rw [if_neg hfire]
    exact ⟨rfl, rfl⟩

theorem runFrom_scoring (lines : Listing) (h : ∀ line ∈ lines, line.scoring scene.commands) :
    ∀ index fired w, ∃ cs started, ∀ w', World.SameFrame w w' →
      (runFrom scene index fired lines w').2 = (started, scene.contributeAll cs w') := by
  induction lines with
  | nil => exact fun _ fired _ => ⟨[], fired, fun _ _ => rfl⟩
  | cons line more ih =>
    intro index fired w
    obtain ⟨cs, started, hline⟩ :=
      runLine_scoring scene fired line (h line List.mem_cons_self) w
    obtain ⟨ds, names, hmore⟩ := ih (fun l hl => h l (List.mem_cons_of_mem line hl)) (index + 1)
      (if started then fired.fire line.name else fired) w
    refine ⟨cs ++ ds, names, fun w' hw' => ?_⟩
    obtain ⟨hworld, hstarted⟩ := hline w' hw'
    unfold runFrom
    dsimp only
    rw [hstarted, hworld, scene.contributeAll_append]
    exact hmore _ (hw'.trans (scene.sameFrame_contributeAll cs w'))

/-- **From all worlds of one frame a pass makes the same contributions**, and starts the same lines. -/
theorem runLines_scoring (lines : Listing) (h : ∀ line ∈ lines, line.scoring scene.commands)
    (w : World) : ∃ cs started, ∀ w', World.SameFrame w w' →
      (runLines scene lines w').2 = (scene.contributeAll cs w').leave scene.active started := by
  obtain ⟨cs, started, hcs⟩ := runFrom_scoring scene lines h 0 ∅ w
  refine ⟨cs, started, fun w' hw' => ?_⟩
  exact congrArg (fun r : Fired × World => r.2.leave scene.active r.1) (hcs w' hw')

end Passes

/-! ### Entries of scores -/

/-- The contributions to a score of a context, with their sources. -/
def World.entries (w : World) (id : ContextId) (name : String) : List (String × ScoreEntry) :=
  ((w.get id).scores.lookup name).entries

section Entries

variable (scene : Scene)

/-- What contributions add to one score of one context. -/
def Scene.contributed (w : World) (id : ContextId) (name : String) (cs : List Contribution) :
    List (String × ScoreEntry) :=
  cs.filterMap fun c =>
    let call : Call := ⟨"", scene, w.contexts.resolve scene.active c.path⟩
    if id = call.target ∧ call.target < w.contexts.made.size ∧ c.name = name then
      some (call.source w, c.entry)
    else none

/-- A contribution adds an entry to one score of one context. -/
theorem World.entries_contributed (call : Call) (score : String) (entry : ScoreEntry) (w : World)
    (id : ContextId) (name : String) :
    (Builtin.contribute call score entry w).2.entries id name =
      w.entries id name ++
        if id = call.target ∧ call.target < w.contexts.made.size ∧ score = name then
          [(call.source w, entry)]
        else [] := by
  show ((w.modify call.target fun c =>
    { c with scores := c.scores.push score (call.source w) entry }).entries id name) = _
  unfold entries modify get
  dsimp only
  rw [Contexts.get_modify]
  by_cases hid : id = call.target ∧ call.target < w.contexts.made.size
  · rw [if_pos hid, Scores.lookup_push]
    by_cases hname : score = name
    · rw [if_pos hname, if_pos ⟨hid.1, hid.2, hname⟩, ← hname, ← hid.1]
      rfl
    · rw [if_neg hname, if_neg fun h => hname h.2.2, List.append_nil, ← hid.1]
  · rw [if_neg hid, if_neg fun h => hid ⟨h.1, h.2.1⟩, List.append_nil]

theorem World.entries_leave (w : World) (fired : Fired) (id other : ContextId) (name : String) :
    (w.leave id fired).entries other name = w.entries other name := by
  unfold entries
  rw [get_leave]

theorem entries_contribute (w : World) (c : Contribution) (id : ContextId) (name : String) :
    (scene.contribute w c).entries id name =
      w.entries id name ++ scene.contributed w id name [c] := by
  unfold Scene.contribute Scene.contributed
  rw [World.entries_contributed, List.filterMap_cons, List.filterMap_nil]
  dsimp only
  congr 1
  split_ifs <;> rfl

theorem World.SameFrame.contributed {w w' : World} (h : World.SameFrame w w') (id : ContextId)
    (name : String) (cs : List Contribution) :
    scene.contributed w id name cs = scene.contributed w' id name cs := by
  unfold Scene.contributed
  simp only [h.resolve, h.size, h.source]

theorem entries_contributeAll (cs : List Contribution) (w : World) (id : ContextId)
    (name : String) :
    (scene.contributeAll cs w).entries id name =
      w.entries id name ++ scene.contributed w id name cs := by
  induction cs generalizing w with
  | nil => exact (List.append_nil _).symm
  | cons c cs ih =>
    have hframe := scene.sameFrame_contribute w c
    have hstep : scene.contributeAll (c :: cs) w = scene.contributeAll cs (scene.contribute w c) := rfl
    have hsplit : scene.contributed w id name (c :: cs) =
        scene.contributed w id name [c] ++ scene.contributed w id name cs :=
      List.filterMap_append (l := [c])
    rw [hstep, ih, entries_contribute, ← hframe.contributed scene, hsplit, List.append_assoc]

theorem entries_revert (keep : String) (w : World) (id : ContextId) (name : String) :
    (w.revert scene keep).entries id name =
      (w.entries id name).filter fun e => !w.takesEntry scene id e.1 := by
  have hview : ((w.revert scene keep).get id).view = _ := World.view_revert id
  exact congrArg (fun v => (v.scores name).entries) hview

/-- **Evaluated anew, a question replaces its own contributions**, by the same ones in all worlds of
one frame, and stays in the frame. -/
theorem entries_runQuestion (keep : String) (lines : Listing)
    (h : ∀ line ∈ lines, line.scoring scene.commands) (w : World) :
    ∃ adds : ContextId → String → List (String × ScoreEntry),
      (∀ id name, ∀ e ∈ adds id name, w.takesEntry scene id e.1) ∧
      ∀ w', World.SameFrame w w' → World.SameFrame w' (runQuestion scene keep lines w').2 ∧
        ∀ id name, (runQuestion scene keep lines w').2.entries id name =
          ((w'.entries id name).filter fun e => !w.takesEntry scene id e.1) ++ adds id name := by
  obtain ⟨cs, started, hcs⟩ := runLines_scoring scene lines h w
  refine ⟨fun id name => scene.contributed w id name cs, ?_, fun w' hw' => ?_⟩
  · intro id name e he
    obtain ⟨c, -, hc⟩ := List.mem_filterMap.mp he
    dsimp only at hc
    split_ifs at hc with hid
    cases hc
    rw [hid.1]
    exact World.takesEntry_source scene c.path "" w
  · have hrevert := World.SameFrame.revert w' scene keep
    have hworld : (runQuestion scene keep lines w').2 =
        (scene.contributeAll cs (w'.revert scene keep)).leave scene.active started :=
      hcs _ (hw'.trans hrevert)
    rw [hworld]
    refine ⟨(hrevert.trans (scene.sameFrame_contributeAll cs _)).trans (.leave _ _ _), fun id name => ?_⟩
    rw [World.entries_leave, entries_contributeAll, entries_revert, ← (hw'.trans hrevert).contributed scene,
      hw'.takesEntry]

end Entries

end CoachScript
