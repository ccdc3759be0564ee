import CoachScript.Proofs.Eval.Moments
import CoachScript.Proofs.Pass.Scoring
import CoachScript.Proofs.State.Grounded

/-!
# What a question owns

* `Dispatch.contribution?`: what a command that was run contributed to a score; `addedTo` collects
  what commands contributed to one score of one context, in order.
* `World.sourceAt`: the source under which a question contributes to a context.
* **`World.entries_replay`**: commands of one scene add just these entries, under that source.
* **`World.owned_runQuestion`**: after a question was evaluated, it owns in its own context and in
  those above what this pass contributed there, and nothing else.
-/

namespace CoachScript

open CoachScript.Action

/-! ### What commands contribute -/

/-- The name of a score and a number, as a scoring command reads them. -/
def Call.scoring? (call : Call) (args : List Value) (parameter : String) : Option (String × Decimal) :=
  match call.text args 0 "name", call.number args 1 parameter with
  | .ok name, .ok number => some (name, number)
  | _, _ => none

namespace Dispatch

/-- What the command contributed, with the name of the score. -/
def contribution? (d : Dispatch) : Option (String × ScoreEntry) :=
  match d.command with
  | .addScore => (d.call.scoring? d.args "value").map fun (name, number) => (name, .value number)
  | .capScore => (d.call.scoring? d.args "limit").map fun (name, limit) => (name, .cap limit)
  | _ => none

/-- What the command contributed to one score of a context. -/
def adds? (id : ContextId) (name : String) (d : Dispatch) : Option ScoreEntry :=
  if d.call.target = id then
    d.contribution?.bind fun (score, entry) => if score = name then some entry else none
  else none

/-- What commands contributed to one score of a context, in order. -/
def addedTo (id : ContextId) (name : String) (ds : List Dispatch) : List ScoreEntry :=
  ds.filterMap (adds? id name)

theorem addedTo_cons (id : ContextId) (name : String) (d : Dispatch) (ds : List Dispatch) :
    addedTo id name (d :: ds) = (d.adds? id name).toList ++ addedTo id name ds := by
  unfold addedTo
  rw [List.filterMap_cons]
  cases d.adds? id name <;> rfl

end Dispatch

/-! ### Commands that do not score -/

namespace Command

variable (call : Call) (args : List Value) {w : World}

theorem retains_createSubcoach :
    Contexts.Retains Context.scores w.contexts (Builtin.createSubcoach call args w).2.contexts := by
  refine createSubcoach_elim (P := fun w' => Contexts.Retains Context.scores w.contexts w'.contexts)
    call args w (.refl _) (fun hchild _ => ?_) fun hchild _ => ?_
  · exact .createInstance (fun _ _ => rfl) hchild
  · have hcreated := Contexts.Retains.createInstance (f := Context.scores) (fun _ _ => rfl) hchild
    exact hcreated.trans (.removeInstance (fun _ _ _ => rfl) _ _ _ _)

theorem retains_removeSubcoach :
    Contexts.Retains Context.scores w.contexts (Builtin.removeSubcoach call args w).2.contexts :=
  removeSubcoach_elim (P := fun w' => Contexts.Retains Context.scores w.contexts w'.contexts)
    call args w (.refl _) fun _ => .removeInstance (fun _ _ _ => rfl) _ _ _ _

/-- **A command that does not score leaves all scores as they are.** -/
theorem retains_scores {command : Command} (h : command.scores = false) :
    Contexts.Retains Context.scores w.contexts (command.run call args w).2.contexts := by
  have hmodify {g : Context → Context} (hg : ∀ c, (g c).scores = c.scores) :
      Contexts.Retains Context.scores w.contexts (w.modify call.target g).contexts :=
    .modify _ call.target hg
  refine run_elim (P := fun w' => Contexts.Retains Context.scores w.contexts w'.contexts) call args w
    command (.refl _) ?_ (fun _ _ _ => hmodify fun _ => rfl) (fun _ => hmodify fun _ => rfl)
    (fun _ _ => hmodify fun _ => rfl) (fun _ _ => ?_) (fun _ => .refl _)
    (fun _ => retains_createSubcoach call args) (fun _ => retains_removeSubcoach call args)
  · rintro (rfl | rfl) <;> cases h
  · exact .updateShelf (fun _ _ => rfl) (fun _ _ _ => rfl) _ _ _

end Command

/-! ### The entries that commands add -/

/-- What a source has contributed to a score of a context. -/
def World.owned (w : World) (id : ContextId) (source name : String) : List ScoreEntry :=
  ((w.get id).scores.lookup name).ofSource source

/-- The source under which the scene's question contributes to a context. -/
def World.sourceAt (w : World) (scene : Scene) (id : ContextId) : String :=
  if id = scene.active then scene.question
  else qualifiedSource (w.get scene.active).name scene.question

namespace World

variable {w : World}

theorem sourceAt_of_retains {w' : World} {scene : Scene}
    (h : Contexts.Retains Context.name w.contexts w'.contexts)
    (hactive : scene.active < w.contexts.made.size) (id : ContextId) :
    w'.sourceAt scene id = w.sourceAt scene id := by
  have hname : (w'.get scene.active).name = (w.get scene.active).name := h.same _ hactive
  unfold sourceAt
  rw [hname]

/-- Scores are as they were. -/
theorem entries_of_retains {w' : World}
    (h : Contexts.Retains Context.scores w.contexts w'.contexts) {id : ContextId}
    (hid : id < w.contexts.made.size) (name : String) : w'.entries id name = w.entries id name := by
  have hscores : (w'.get id).scores = (w.get id).scores := h.same id hid
  unfold entries
  rw [hscores]

/-- A command that reads the name of a score and a number, and contributes them. -/
theorem entries_scoring (call : Call) (args : List Value) (parameter : String)
    (entry : Decimal → ScoreEntry) {id : ContextId} (hid : id < w.contexts.made.size)
    (name : String) :
    (Builtin.scoreBy parameter entry call args w).2.entries id name =
      w.entries id name ++
        (if call.target = id then
          ((call.scoring? args parameter).map fun (name, number) => (name, entry number)).bind
            fun (score, entry) => if score = name then some entry else none
        else none).toList.map fun entry => (call.source w, entry) := by
  have hnothing (x : Option ScoreEntry) (hx : x = none) :
      w.entries id name = w.entries id name ++
        (if call.target = id then x else none).toList.map fun entry => (call.source w, entry) := by
    rw [hx, ite_self]
    exact (List.append_nil _).symm
  unfold Builtin.scoreBy Call.scoring?
  cases call.text args 0 "name" with
  | error e => exact hnothing _ rfl
  | ok score =>
    cases call.number args 1 parameter with
    | error e => exact hnothing _ rfl
    | ok number =>
      refine (entries_contributed call score (entry number) w id name).trans ?_
      by_cases htarget : call.target = id
      · subst htarget
        by_cases hname : score = name
        · rw [if_pos ⟨rfl, hid, hname⟩, if_pos rfl]
          dsimp only [Option.map_some, Option.bind_some]
          rw [if_pos hname]
          rfl
        · rw [if_neg fun h => hname h.2.2, if_pos rfl]
          dsimp only [Option.map_some, Option.bind_some]
          rw [if_neg hname]
          rfl
      · rw [if_neg fun h => htarget h.1.symm, if_neg htarget]
        rfl

/-- **A command adds to a score what it contributed**, and nothing else. -/
theorem entries_run (d : Dispatch) {id : ContextId} (hid : id < w.contexts.made.size)
    (name : String) :
    (d.run w).2.entries id name =
      w.entries id name ++ (d.adds? id name).toList.map fun entry => (d.call.source w, entry) := by
  obtain ⟨command, call, args⟩ := d
  cases hscores : command.scores with
  | true =>
    cases command with
    | addScore => exact entries_scoring call args "value" .value hid name
    | capScore => exact entries_scoring call args "limit" .cap hid name
    | _ => cases hscores
  | false =>
    have hnone : Dispatch.adds? id name ⟨command, call, args⟩ = none := by
      unfold Dispatch.adds? Dispatch.contribution?
      cases command with
      | addScore | capScore => cases hscores
      | _ => exact ite_self _
    rw [hnone]
    exact (entries_of_retains (Command.retains_scores call args hscores) hid name).trans
      (List.append_nil _).symm

variable {scene : Scene}

/-- **Commands of one scene add to a score what they contributed, in order, under one source.** -/
theorem entries_replay (hactive : scene.active < w.contexts.made.size) {ds : List Dispatch}
    (hds : ∀ d ∈ ds, d.call.scene = scene) {id : ContextId} (hid : id < w.contexts.made.size)
    (name : String) :
    (Dispatch.replay ds w).entries id name =
      w.entries id name ++
        (Dispatch.addedTo id name ds).map fun entry => (w.sourceAt scene id, entry) := by
  induction ds generalizing w with
  | nil => exact (List.append_nil _).symm
  | cons d ds ih =>
    have hretains : Contexts.Retains Context.name w.contexts (d.run w).2.contexts :=
      (Command.effect d.call d.args w d.command).retains_name
    have hsource := sourceAt_of_retains hretains hactive id
    have hmore := ih (w := (d.run w).2) (Nat.lt_of_lt_of_le hactive hretains.size)
      (fun d' hd' => hds d' (List.mem_cons_of_mem _ hd')) (Nat.lt_of_lt_of_le hid hretains.size)
    have hadds : ((d.adds? id name).toList.map fun entry => (d.call.source w, entry)) =
        (d.adds? id name).toList.map fun entry => (w.sourceAt scene id, entry) := by
      unfold Dispatch.adds?
      split_ifs with htarget
      · have hat : d.call.source w = w.sourceAt scene id := by
          unfold Call.source sourceAt
          rw [hds d List.mem_cons_self, htarget]
        rw [hat]
      · rfl
    have hreplay : Dispatch.replay (d :: ds) w = Dispatch.replay ds (d.run w).2 := rfl
    rw [hreplay, hmore, entries_run d hid, hadds, hsource, Dispatch.addedTo_cons, List.map_append,
      List.append_assoc]

end World

/-- The commands of a pass belong to its scene. -/
theorem scene_of_mem_passCalls {scene : Scene} (lines : Listing) (w : World) :
    ∀ d ∈ passCalls scene lines w, d.call.scene = scene := by
  intro d hd
  obtain ⟨m, hm, rfl⟩ := Dispatch.exists_moment hd w
  exact (inScene_passCalls scene lines w m hm).1

/-! ### Questions -/

namespace World

variable {w : World} {scene : Scene} {id : ContextId}

/-- Reverting takes the contributions of the question back. -/
theorem takesEntry_sourceAt (h : id = scene.active ∨ id ∈ w.contexts.ancestors scene.active) :
    w.takesEntry scene id (w.sourceAt scene id) := by
  unfold takesEntry sourceAt
  by_cases hid : id = scene.active
  · rw [if_pos hid, hid, beq_self_eq_true, beq_self_eq_true]
    rfl
  · rw [if_neg hid, List.contains_iff_mem.mpr (h.resolve_left hid), beq_self_eq_true,
      Bool.and_self, Bool.or_true]

/-- The contributions to a score after a question was evaluated anew: what reverting has left, and
what the pass has contributed, under one source. -/
theorem entries_question (hactive : scene.active < w.contexts.made.size)
    (hid : id < w.contexts.made.size) (keep : String) (lines : Listing) (name : String) :
    (runQuestion scene keep lines w).2.entries id name =
      ((w.entries id name).filter fun e => !w.takesEntry scene id e.1) ++
        (Dispatch.addedTo id name (passCalls scene lines (w.revert scene keep))).map
          fun entry => (w.sourceAt scene id, entry) := by
  have hframe := SameFrame.revert w scene keep
  have hsource : (w.revert scene keep).sourceAt scene id = w.sourceAt scene id := by
    unfold sourceAt
    rw [hframe.name]
  have hrun : (runQuestion scene keep lines w).2.entries id name =
      (Dispatch.replay (passCalls scene lines (w.revert scene keep)) (w.revert scene keep)).entries id name := by
    unfold runQuestion
    rw [world_runLines, entries_leave]
  have hentries := entries_replay (hframe.size ▸ hactive)
    (scene_of_mem_passCalls lines (w.revert scene keep)) (hframe.size ▸ hid) name
  rwa [← hrun, entries_revert, hsource] at hentries

/-- **A question that was evaluated owns what the pass contributed, and nothing else.** -/
theorem owned_runQuestion (hactive : scene.active < w.contexts.made.size)
    (hid : id < w.contexts.made.size)
    (h : id = scene.active ∨ id ∈ w.contexts.ancestors scene.active) (keep : String)
    (lines : Listing) (name : String) :
    (runQuestion scene keep lines w).2.owned id (w.sourceAt scene id) name =
      Dispatch.addedTo id name (passCalls scene lines (w.revert scene keep)) := by
  have hentries := entries_question hactive hid keep lines name
  -- What was there under the source has been taken back.
  have hold : ((w.entries id name).filter fun e => !w.takesEntry scene id e.1).filter
      (·.1 == w.sourceAt scene id) = [] := by
    rw [List.filter_filter, List.filter_eq_nil_iff]
    intro e _
    by_cases he : e.1 = w.sourceAt scene id
    · rw [he, takesEntry_sourceAt h]
      simp
    · rw [beq_false_of_ne he]
      exact Bool.false_ne_true
  unfold owned Score.ofSource
  show List.map _ (((runQuestion scene keep lines w).2.entries id name).filter _) = _
  rw [hentries, List.filter_append, hold, List.nil_append, List.filter_eq_self.mpr, List.map_map]
  · exact List.map_id _
  · intro e he
    obtain ⟨entry, -, rfl⟩ := List.mem_map.mp he
    exact beq_self_eq_true _

end World

end CoachScript
