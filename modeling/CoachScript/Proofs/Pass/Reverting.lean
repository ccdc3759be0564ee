import CoachScript.Proofs.Builtin.Alike

/-!
# What reverting takes back

* `Scene.takesWrite`, `World.takesEntry`: the writes of variables and the contributions to scores
  that reverting a scene takes back, context by context.
* **`World.view_revert`**: reverting drops these from what a context shows, and the names of the lines that
  have started in the scene's context, and nothing else.
* `World.SameReverted`: worlds that reverting makes alike; `World.sameReverted_of_view` for changes
  that only touch what reverting drops.
* `World.SameFrame`: worlds that differ in memory, scores, badges, recommendations and started lines at most.
-/

namespace CoachScript

/-! ### Dropping -/

namespace Variable

variable {α : Type} (v : Variable α) (p : Option String → Bool)

/-- The variable without the writes of some sources. -/
def drop : Variable α := ⟨v.writes.filter fun x => !p x.source⟩

theorem drop_none : v.drop (fun _ => false) = v :=
  congrArg Variable.mk (List.filter_eq_self.mpr fun _ _ => rfl)

theorem drop_put {source : Option String} (h : p source) (value : α) :
    (v.put source value).drop p = v.drop p := by
  unfold put drop
  rw [List.filter_append, List.filter_filter]
  have hlast : [(⟨source, value⟩ : Write α)].filter (fun x => !p x.source) = [] := by
    rw [List.filter_cons_of_neg (by rw [h]; exact Bool.false_ne_true), List.filter_nil]
  rw [hlast, List.append_nil]
  congr 1
  refine List.filter_congr fun x _ => ?_
  by_cases hx : x.source = source
  · rw [hx, h]
    rfl
  · rw [bne_iff_ne.mpr hx, Bool.and_true]

end Variable

namespace Score

variable (s : Score) (p : String → Bool)

/-- The score without the contributions of some sources. -/
def drop : Score := ⟨s.entries.filter fun e => !p e.1⟩

theorem drop_none : s.drop (fun _ => false) = s :=
  congrArg Score.mk (List.filter_eq_self.mpr fun _ _ => rfl)

theorem drop_push {source : String} (h : p source) (entry : ScoreEntry) :
    (s.push source entry).drop p = s.drop p := by
  unfold push drop
  rw [List.filter_append, List.filter_cons_of_neg (by rw [h]; exact Bool.false_ne_true),
    List.filter_nil, List.append_nil]

end Score

namespace ContextView

variable (v : ContextView)

/-- What a context shows without some writes of variables and some contributions to scores, and with or
without the names of the lines that have started. -/
def drop (writes : String → Option String → Bool) (entries : String → Bool) (names : Bool) : ContextView :=
  { v with
    memory := fun name => (v.memory name).drop (writes name)
    scores := fun name => (v.scores name).drop entries
    fired := if names then ∅ else v.fired }

theorem drop_none : v.drop (fun _ _ => false) (fun _ => false) false = v := by
  unfold drop
  simp only [Variable.drop_none, Score.drop_none]
  rfl

theorem drop_drop (writes writes' : String → Option String → Bool) (entries entries' : String → Bool)
    (names names' : Bool) :
    (v.drop writes entries names).drop writes' entries' names' =
      v.drop (fun name s => writes name s || writes' name s) (fun s => entries s || entries' s)
        (names || names') := by
  unfold drop Variable.drop Score.drop
  dsimp only
  congr 1
  · funext name
    rw [List.filter_filter]
    congr 2
    funext x
    rw [Bool.not_or, Bool.and_comm]
  · funext name
    rw [List.filter_filter]
    congr 2
    funext x
    rw [Bool.not_or, Bool.and_comm]
  · cases names <;> cases names' <;> rfl

end ContextView

theorem Context.view_revertScores (c : Context) (source : String) :
    { c with scores := c.scores.revert source }.view =
      c.view.drop (fun _ _ => false) (fun s => s == source) false := by
  unfold view ContextView.drop
  simp only [Variable.drop_none]
  congr 1
  funext name
  exact c.scores.lookup_revert name source

theorem Context.view_revertBoth (c : Context) (source keep : String) :
    { c with scores := c.scores.revert source, memory := c.memory.revert source keep, fired := ∅ }.view =
      c.view.drop (fun name s => !Variables.spared keep name && s == some source)
        (fun s => s == source) true := by
  unfold view ContextView.drop
  congr 1
  · funext name
    rw [Variables.lookup_revert]
    split_ifs with h
    · simp only [h, Bool.not_true, Bool.false_and, Variable.drop_none]
    · simp only [h, Bool.not_false, Bool.true_and]
      rfl
  · funext name
    exact c.scores.lookup_revert name source

/-! ### Reverting -/

/-- The write of a variable is one that reverting the scene takes back. -/
def Scene.takesWrite (scene : Scene) (keep : String) (id : ContextId) (name : String)
    (source : Option String) : Bool :=
  id == scene.active && (!Variables.spared keep name && source == some scene.question)

namespace World

variable (scene : Scene) (keep : String) (w : World)

/-- The contribution to a score is one that reverting the scene takes back. -/
def takesEntry (id : ContextId) (source : String) : Bool :=
  id == scene.active && source == scene.question ||
    (w.contexts.ancestors scene.active).contains id &&
      source == qualifiedSource (w.get scene.active).name scene.question

variable {scene keep w}

theorem view_modify {f : Context → Context} (hf : (f default).view = (default : Context).view)
    (id other : ContextId) :
    ((w.modify id f).get other).view =
      if other = id then (f (w.get id)).view else (w.get other).view := by
  unfold get modify
  dsimp only
  rw [Contexts.get_modify]
  by_cases hid : other = id
  · rw [if_pos hid]
    by_cases hlt : id < w.contexts.made.size
    · rw [if_pos ⟨hid, hlt⟩]
    · rw [if_neg fun h => hlt h.2, hid]
      have hget : w.contexts.get id = default := by
        unfold Contexts.get
        rw [Array.getElem?_eq_none (Nat.le_of_not_lt hlt)]
        rfl
      rw [hget, hf]
  · rw [if_neg hid, if_neg fun h => hid h.1]

theorem view_revertAbove (source : String) (ids : List ContextId) (w : World) (id : ContextId) :
    ((ids.foldl (fun w id => w.modify id fun c => { c with scores := c.scores.revert source }) w).get
        id).view =
      (w.get id).view.drop (fun _ _ => false) (fun s => ids.contains id && s == source) false := by
  induction ids generalizing w with
  | nil => exact (ContextView.drop_none _).symm
  | cons above ids ih =>
    rw [List.foldl_cons, ih, view_modify (by rw [Context.view_revertScores]; rfl)]
    rw [List.contains_cons]
    by_cases hid : id = above
    · rw [if_pos hid, Context.view_revertScores, ContextView.drop_drop, hid, beq_self_eq_true]
      congr 1
      funext s
      rw [Bool.true_or, Bool.true_and]
      cases s == source <;> simp
    · rw [if_neg hid, beq_false_of_ne hid, Bool.false_or]

theorem made_revertAbove (source : String) (ids : List ContextId) (w : World) :
    let r := ids.foldl (fun w id => w.modify id fun c => { c with scores := c.scores.revert source }) w
    r.contexts.made.size = w.contexts.made.size ∧ r.contexts.lineage = w.contexts.lineage ∧
      r.contexts.stored = w.contexts.stored ∧ r.host = w.host ∧ r.log = w.log := by
  induction ids generalizing w with
  | nil => exact ⟨rfl, rfl, rfl, rfl, rfl⟩
  | cons above ids ih =>
    obtain ⟨hsize, hrest⟩ := ih (w.modify above fun c => { c with scores := c.scores.revert source })
    exact ⟨hsize.trans (Contexts.size_modify _ _ _), hrest⟩

theorem size_revert : (w.revert scene keep).contexts.made.size = w.contexts.made.size :=
  (made_revertAbove _ _ _).1.trans (Contexts.size_modify _ _ _)

theorem lineage_revert : (w.revert scene keep).contexts.lineage = w.contexts.lineage :=
  (made_revertAbove _ _ _).2.1

theorem stored_revert : (w.revert scene keep).contexts.stored = w.contexts.stored :=
  (made_revertAbove _ _ _).2.2.1

theorem host_revert : (w.revert scene keep).host = w.host := (made_revertAbove _ _ _).2.2.2.1

theorem log_revert : (w.revert scene keep).log = w.log := (made_revertAbove _ _ _).2.2.2.2

/-- **Reverting drops what the scene's question contributed, and nothing else.** -/
theorem view_revert (id : ContextId) :
    ((w.revert scene keep).get id).view =
      (w.get id).view.drop (scene.takesWrite keep id) (w.takesEntry scene id) (id == scene.active) := by
  unfold revert
  rw [view_revertAbove, view_modify (by rw [Context.view_revertBoth]; rfl)]
  unfold takesEntry Scene.takesWrite
  by_cases hid : id = scene.active
  · rw [if_pos hid, Context.view_revertBoth, ContextView.drop_drop, hid, beq_self_eq_true]
    simp only [Bool.or_false, Bool.true_and]
    rfl
  · rw [if_neg hid, beq_false_of_ne hid]
    simp only [Bool.false_and, Bool.false_or]
    rfl

/-! ### Worlds that reverting makes alike -/

variable (scene keep) in
/-- Worlds with one host, of which reverting makes alike ones. -/
structure SameReverted (w w' : World) : Prop where
  contexts : (w.revert scene keep).contexts.Alike (w'.revert scene keep).contexts
  host : w.host = w'.host

variable {w' w'' : World}

theorem SameReverted.refl (w : World) : SameReverted scene keep w w := ⟨.refl _, rfl⟩

theorem SameReverted.trans (h : SameReverted scene keep w w')
    (h' : SameReverted scene keep w' w'') : SameReverted scene keep w w'' :=
  ⟨h.contexts.trans h'.contexts, h.host.trans h'.host⟩

theorem SameReverted.alike (h : SameReverted scene keep w w') :
    World.Alike w.log w'.log (w.revert scene keep) (w'.revert scene keep) := by
  refine ⟨h.contexts, ?_, #[], ?_, ?_⟩
  · rw [host_revert, host_revert, h.host]
  · rw [log_revert, Array.append_empty]
  · rw [log_revert, Array.append_empty]

/-- Worlds of one tree that differ in what reverting drops. -/
theorem sameReverted_of_view (hsize : w'.contexts.made.size = w.contexts.made.size)
    (hlineage : w'.contexts.lineage = w.contexts.lineage)
    (hstored : w'.contexts.stored = w.contexts.stored) (hhost : w'.host = w.host)
    (hview : ∀ id,
      (w'.get id).view.drop (scene.takesWrite keep id) (w.takesEntry scene id) (id == scene.active) =
      (w.get id).view.drop (scene.takesWrite keep id) (w.takesEntry scene id) (id == scene.active)) :
    SameReverted scene keep w' w := by
  have hname : (w'.get scene.active).name = (w.get scene.active).name :=
    congrArg ContextView.name (hview scene.active)
  have htakes : w'.takesEntry scene = w.takesEntry scene := by
    unfold takesEntry Contexts.ancestors
    rw [hname, hlineage]
  refine ⟨⟨?_, ?_, ?_, fun id => ?_⟩, hhost⟩
  · rw [size_revert, size_revert, hsize]
  · rw [lineage_revert, lineage_revert, hlineage]
  · rw [stored_revert, stored_revert, hstored]
  · have h : ((w'.revert scene keep).get id).view =
        (w'.get id).view.drop (scene.takesWrite keep id) (w'.takesEntry scene id)
          (id == scene.active) := view_revert id
    rw [htakes, hview id, ← view_revert id] at h
    exact h

/-- **A change of one context that only touches what reverting drops is as if it had not been.** -/
theorem sameReverted_modify (id : ContextId) {f : Context → Context}
    (hf : ∀ c : Context,
      (f c).view.drop (scene.takesWrite keep id) (w.takesEntry scene id) (id == scene.active) =
      c.view.drop (scene.takesWrite keep id) (w.takesEntry scene id) (id == scene.active)) :
    SameReverted scene keep (w.modify id f) w := by
  refine sameReverted_of_view (Contexts.size_modify _ _ _) rfl rfl rfl fun other => ?_
  unfold get modify
  dsimp only
  rw [Contexts.get_modify]
  split_ifs with hid
  · rw [hid.1]
    exact hf _
  · rfl

/-- The names that a pass leaves in the scene's context are as if it had left none. -/
theorem sameReverted_leave (fired : Fired) : SameReverted scene keep (w.leave scene.active fired) w := by
  refine sameReverted_modify scene.active fun c => ?_
  rw [beq_self_eq_true]
  rfl

theorem sameReverted_revert : SameReverted scene keep (w.revert scene keep) w := by
  refine sameReverted_of_view size_revert lineage_revert stored_revert host_revert fun id => ?_
  rw [view_revert, ContextView.drop_drop]
  simp only [Bool.or_self]

end World

/-! ### The sources of calls -/

/-- What a call writes is kept under a source that its scene takes back. -/
theorem World.takesEntry_source (scene : Scene) (path : Path) (name : String) (w : World) :
    let call : Call := ⟨name, scene, w.contexts.resolve scene.active path⟩
    w.takesEntry scene call.target (call.source w) := by
  intro call
  unfold takesEntry Call.source
  by_cases htarget : call.target = scene.active
  · rw [if_pos htarget, htarget, beq_self_eq_true, beq_self_eq_true]
    rfl
  · have hmem := (w.contexts.resolve_mem scene.active path).resolve_left htarget
    rw [if_neg htarget, List.contains_iff_mem.mpr hmem, beq_self_eq_true, Bool.and_self,
      Bool.or_true]

/-! ### Frames -/

/-- Worlds that differ in memory, scores, badges, recommendations and started lines at most. -/
structure World.SameFrame (w w' : World) : Prop where
  host : w.host = w'.host
  lineage : w.contexts.lineage = w'.contexts.lineage
  stored : w.contexts.stored = w'.contexts.stored
  size : w.contexts.made.size = w'.contexts.made.size
  name : ∀ id, (w.get id).name = (w'.get id).name
  coachId : ∀ id, (w.get id).coachId = (w'.get id).coachId
  hidden : ∀ id, (w.get id).hidden = (w'.get id).hidden

namespace World.SameFrame

variable {w w' w'' : World}

theorem refl (w : World) : SameFrame w w :=
  ⟨rfl, rfl, rfl, rfl, fun _ => rfl, fun _ => rfl, fun _ => rfl⟩

theorem trans (h : SameFrame w w') (h' : SameFrame w' w'') : SameFrame w w'' :=
  ⟨h.host.trans h'.host, h.lineage.trans h'.lineage, h.stored.trans h'.stored,
    h.size.trans h'.size, fun id => (h.name id).trans (h'.name id),
    fun id => (h.coachId id).trans (h'.coachId id), fun id => (h.hidden id).trans (h'.hidden id)⟩

theorem resolve (h : SameFrame w w') (active : ContextId) (path : Path) :
    w.contexts.resolve active path = w'.contexts.resolve active path := by
  unfold Contexts.resolve
  rw [h.lineage]

theorem source (h : SameFrame w w') (call : Call) : call.source w = call.source w' := by
  unfold Call.source
  rw [h.name]

theorem takesEntry (h : SameFrame w w') (scene : Scene) :
    w.takesEntry scene = w'.takesEntry scene := by
  unfold World.takesEntry Contexts.ancestors
  rw [h.name, h.lineage]

/-- A change of a context that keeps its names and what it hides stays in the frame. -/
theorem modify (w : World) (id : ContextId) {f : Context → Context}
    (hname : ∀ c, (f c).name = c.name) (hcoachId : ∀ c, (f c).coachId = c.coachId)
    (hhidden : ∀ c, (f c).hidden = c.hidden) : SameFrame w (w.modify id f) := by
  have hget : ∀ other, (w.modify id f).get other = f (w.get other) ∨
      (w.modify id f).get other = w.get other := by
    intro other
    unfold World.get World.modify
    dsimp only
    rw [Contexts.get_modify]
    split_ifs with hid
    · rw [hid.1]
      exact .inl rfl
    · exact .inr rfl
  refine ⟨rfl, rfl, rfl, (Contexts.size_modify _ _ _).symm, fun other => ?_, fun other => ?_,
    fun other => ?_⟩
  · rcases hget other with h | h <;> rw [h]
    exact (hname _).symm
  · rcases hget other with h | h <;> rw [h]
    exact (hcoachId _).symm
  · rcases hget other with h | h <;> rw [h]
    exact (hhidden _).symm

/-- The names that a pass leaves are no part of the frame. -/
theorem leave (w : World) (id : ContextId) (fired : Fired) : SameFrame w (w.leave id fired) :=
  .modify w id (fun _ => rfl) (fun _ => rfl) fun _ => rfl

theorem revert (w : World) (scene : Scene) (keep : String) :
    SameFrame w (w.revert scene keep) := by
  have hview : ∀ id, ((w.revert scene keep).get id).view = _ := fun id => World.view_revert id
  refine ⟨World.host_revert.symm, World.lineage_revert.symm, World.stored_revert.symm,
    World.size_revert.symm, fun id => ?_, fun id => ?_, fun id => ?_⟩
  · exact (congrArg ContextView.name (hview id)).symm
  · exact (congrArg ContextView.coachId (hview id)).symm
  · exact (congrArg ContextView.hidden (hview id)).symm

end World.SameFrame

end CoachScript
