import CoachScript.Proofs.Engine.Reachable
import CoachScript.Proofs.Pass.Branch

/-!
# Engines whose contexts exist

A platform holds the contexts that it names, so it only names contexts that exist.

* `Engine.ProperStep`: a step that runs scripts, creates instances and links contexts only where the
  contexts exist. `Engine.Grown`: what such steps make of an engine that has run nothing.
* `Engine.Kept`: what running a question in a context that exists keeps, every evaluation keeps.
* **`Engine.Grown.rooted`**: then every context above another exists.
* **`Engine.Grown.contributions`**: in every such state, a question that was evaluated owns what the
  pass contributed, in its own context and in those above, and nothing else.
* **`Engine.Grown.touches_branch`**: and it changes nothing in any other context.
-/

namespace CoachScript

/-! ### Evaluations -/

namespace World

variable {w : World} (h : w.contexts.Grounded)
include h

theorem keeps_runQuestion {scene : Scene} (hactive : scene.active < w.contexts.made.size)
    (keep : String) (lines : Listing) :
    w.contexts.Keeps scene.active (runQuestion scene keep lines w).2.contexts := by
  have hframe := SameFrame.revert w scene keep
  have hnames : w.contexts.Retains Context.name (w.revert scene keep).contexts :=
    ⟨Nat.le_of_eq hframe.size, fun id _ => (hframe.name id).symm⟩
  have habove : (w.revert scene keep).contexts.ancestors scene.active =
      w.contexts.ancestors scene.active := congrArg (Lineage.ancestors · scene.active) lineage_revert
  have hrun := keeps_runLines (grounded_revert h scene keep) (hframe.size ▸ hactive) lines
  exact ⟨hrun.grounded, hnames.trans hrun.names, hrun.above.trans habove⟩

theorem grounded_visit (commands : CommandTable) (keep : String) {active : ContextId}
    (hactive : active < w.contexts.made.size) (coach : Coach) (question : String) :
    (w.visit commands keep active coach question).contexts.Grounded ∧
      w.contexts.made.size ≤
        (w.visit commands keep active coach question).contexts.made.size := by
  have hstays : w.contexts.Grounded ∧ w.contexts.made.size ≤ w.contexts.made.size :=
    ⟨h, Nat.le_refl _⟩
  unfold visit
  cases coach.compose? question with
  | none => exact hstays
  | some text =>
    dsimp only
    cases ListingCache.fresh text with
    | error e => exact hstays
    | ok lines =>
      dsimp only
      cases w.host.answer (w.get active).name question with
      | error e => exact hstays
      | ok answer =>
        have hactive : (⟨active, coach, question, commands⟩ : Scene).active < w.contexts.made.size :=
          hactive
        have hkeeps := keeps_runQuestion h hactive keep lines
        exact ⟨hkeeps.grounded, hkeeps.names.size⟩

end World

/-- The context of a coach exists. -/
theorem Contexts.Named.obtain_lt {cs : Contexts} (h : cs.Named) (coachId : String) :
    (cs.obtain coachId).1 < (cs.obtain coachId).2.made.size := by
  unfold Contexts.obtain
  cases hfound : cs.find? coachId with
  | some id => exact (h _ id hfound).1
  | none =>
    unfold Contexts.add
    dsimp only
    rw [Array.size_push]
    exact Nat.lt_succ_self _

namespace Engine

variable {engine engine' : Engine}

/-- The engine is sound, and every context above another exists. -/
structure Rooted (engine : Engine) : Prop where
  sound : engine.Sound
  grounded : engine.world.contexts.Grounded

namespace Rooted

variable (h : engine.Rooted)
include h

/-- The links stay, and so do the contexts. -/
theorem of_lineage (hsound : engine'.Sound)
    (hlineage : engine'.world.contexts.lineage = engine.world.contexts.lineage)
    (hsize : engine.world.contexts.made.size ≤ engine'.world.contexts.made.size) :
    engine'.Rooted := ⟨hsound, h.grounded.of_lineage hlineage hsize⟩

theorem evaluateIn {active : ContextId} (hactive : active < engine.world.contexts.made.size)
    (coach : Coach) (question : String) :
    (engine.evaluateIn active coach question).2.Rooted ∧
      engine.world.contexts.made.size ≤
        (engine.evaluateIn active coach question).2.world.contexts.made.size := by
  have hsound := sound_evaluateIn h.sound active coach question
  obtain ⟨cache, -, heq⟩ := evaluateIn_eq h.sound.cache active coach question
  obtain ⟨hgrounded, hsize⟩ :=
    World.grounded_visit h.grounded engine.commands engine.config.systemPrefix hactive coach question
  rw [heq] at hsound ⊢
  exact ⟨⟨hsound, hgrounded⟩, hsize⟩

theorem obtain (coachId : String) : (engine.obtain coachId).2.Rooted :=
  ⟨sound_obtain h.sound coachId, h.grounded.obtain coachId⟩

theorem evaluateQuestion (coachId question : String) :
    (engine.evaluateQuestion coachId question).2.Rooted := by
  unfold Engine.evaluateQuestion
  cases engine.coach coachId with
  | error e => exact h
  | ok coach =>
    exact ((h.obtain coachId).evaluateIn (h.sound.named.obtain_lt coachId) coach question).1

omit h in
theorem evaluateAllIn {active : ContextId} (coach : Coach) (questions : List String) :
    ∀ {engine : Engine}, engine.Rooted → active < engine.world.contexts.made.size →
      (engine.evaluateAllIn active coach questions).2.Rooted := by
  induction questions with
  | nil => exact fun h _ => h
  | cons question more ih =>
    intro engine h hactive
    have hfirst := h.evaluateIn hactive coach question
    unfold Engine.evaluateAllIn
    rcases hrun : engine.evaluateIn active coach question with ⟨e | report, next⟩
    · rw [hrun] at hfirst
      exact hfirst.1
    · rw [hrun] at hfirst
      exact ih hfirst.1 (Nat.lt_of_lt_of_le hactive hfirst.2)

theorem evaluateCoach (coachId : String) : (engine.evaluateCoach coachId).2.Rooted := by
  unfold Engine.evaluateCoach
  cases engine.coach coachId with
  | error e => exact h
  | ok coach => exact evaluateAllIn coach _ (h.obtain coachId) (h.sound.named.obtain_lt coachId)

theorem evaluateInstance (key question : String) :
    (engine.evaluateInstance key question).2.Rooted := by
  unfold Engine.evaluateInstance
  cases hfound : engine.world.contexts.find? key with
  | none => exact h
  | some active =>
    dsimp only
    cases engine.coach (engine.world.get active).coachId with
    | error e => exact h
    | ok coach => exact (h.evaluateIn (h.sound.named _ active hfound).1 coach question).1

variable {scene : Scene} (hactive : scene.active < engine.world.contexts.made.size)
include hactive

theorem runText (text : String) : (engine.runText scene text).2.Rooted :=
  ⟨sound_runText h.sound scene text,
    runText_of (P := fun w => w.contexts.Grounded) h.sound.cache scene text h.grounded
      fun lines => (World.keeps_runLines h.grounded hactive lines).grounded⟩

theorem rerunText (text : String) : (engine.rerunText scene text).2.Rooted :=
  ⟨sound_rerunText h.sound scene text,
    rerunText_of (P := fun w => w.contexts.Grounded) h.sound.cache scene text h.grounded
      fun keep lines => (World.keeps_runQuestion h.grounded hactive keep lines).grounded⟩

end Rooted

/-! ### What evaluations keep -/

/-- What stays true when a coach's context is obtained, and when a question is run in a context that
exists. -/
structure Kept (P : World → Prop) : Prop where
  obtain : ∀ {w : World} (coachId : String), P w →
    P { w with contexts := (w.contexts.obtain coachId).2 }
  rerun : ∀ {w : World} {scene : Scene} (keep : String) (lines : Listing), P w →
    scene.active < w.contexts.made.size → P (runQuestion scene keep lines w).2

namespace Kept

variable {P : World → Prop} (hkept : Kept P)
include hkept

theorem visit {w : World} (h : P w) (commands : CommandTable) (keep : String) {active : ContextId}
    (hactive : active < w.contexts.made.size) (coach : Coach) (question : String) :
    P (w.visit commands keep active coach question) := by
  unfold World.visit
  cases coach.compose? question with
  | none => exact h
  | some text =>
    dsimp only
    cases ListingCache.fresh text with
    | error e => exact h
    | ok lines =>
      dsimp only
      cases w.host.answer (w.get active).name question with
      | error e => exact h
      | ok answer =>
        have hactive : (⟨active, coach, question, commands⟩ : Scene).active < w.contexts.made.size :=
          hactive
        exact hkept.rerun keep lines h hactive

section Rooted

variable (hrooted : engine.Rooted) (h : P engine.world)
include hrooted h

theorem evaluateIn {active : ContextId} (hactive : active < engine.world.contexts.made.size)
    (coach : Coach) (question : String) : P (engine.evaluateIn active coach question).2.world := by
  obtain ⟨cache, -, heq⟩ := evaluateIn_eq hrooted.sound.cache active coach question
  rw [heq]
  exact hkept.visit h _ _ hactive coach question

theorem evaluateQuestion (coachId question : String) :
    P (engine.evaluateQuestion coachId question).2.world := by
  unfold Engine.evaluateQuestion
  cases engine.coach coachId with
  | error e => exact h
  | ok coach =>
    exact hkept.evaluateIn (hrooted.obtain coachId) (hkept.obtain coachId h)
      (hrooted.sound.named.obtain_lt coachId) coach question

omit hrooted h in
theorem evaluateAllIn {active : ContextId} (coach : Coach) (questions : List String) :
    ∀ {engine : Engine}, engine.Rooted → P engine.world → active < engine.world.contexts.made.size →
      P (engine.evaluateAllIn active coach questions).2.world := by
  induction questions with
  | nil => exact fun _ h _ => h
  | cons question more ih =>
    intro engine hrooted h hactive
    have hnext := hrooted.evaluateIn hactive coach question
    have hfirst := hkept.evaluateIn hrooted h hactive coach question
    unfold Engine.evaluateAllIn
    rcases hrun : engine.evaluateIn active coach question with ⟨e | report, next⟩
    · rwa [hrun] at hfirst
    · rw [hrun] at hnext hfirst
      exact ih hnext.1 hfirst (Nat.lt_of_lt_of_le hactive hnext.2)

theorem evaluateCoach (coachId : String) : P (engine.evaluateCoach coachId).2.world := by
  unfold Engine.evaluateCoach
  cases engine.coach coachId with
  | error e => exact h
  | ok coach =>
    exact hkept.evaluateAllIn coach _ (hrooted.obtain coachId) (hkept.obtain coachId h)
      (hrooted.sound.named.obtain_lt coachId)

theorem evaluateInstance (key question : String) :
    P (engine.evaluateInstance key question).2.world := by
  unfold Engine.evaluateInstance
  cases hfound : engine.world.contexts.find? key with
  | none => exact h
  | some active =>
    dsimp only
    cases engine.coach (engine.world.get active).coachId with
    | error e => exact h
    | ok coach =>
      exact hkept.evaluateIn hrooted h (hrooted.sound.named _ active hfound).1 coach question

end Rooted

end Kept

/-! ### Steps -/

/-- A step that runs scripts, creates instances and links contexts only where the contexts exist. -/
inductive ProperStep (engine : Engine) : Engine → Prop
  /-- Any step that leaves the links between contexts as they are. -/
  | aside {engine' : Engine} (h : engine.Step engine')
    (hlineage : engine'.world.contexts.lineage = engine.world.contexts.lineage)
    (hsize : engine.world.contexts.made.size ≤ engine'.world.contexts.made.size) :
    ProperStep engine engine'
  | question (coachId question : String) :
    ProperStep engine (engine.evaluateQuestion coachId question).2
  | coach (coachId : String) : ProperStep engine (engine.evaluateCoach coachId).2
  | subcoach (key question : String) :
    ProperStep engine (engine.evaluateInstance key question).2
  | run {scene : Scene} (hactive : scene.active < engine.world.contexts.made.size)
    (text : String) : ProperStep engine (engine.runText scene text).2
  | rerun {scene : Scene} (hactive : scene.active < engine.world.contexts.made.size)
    (text : String) : ProperStep engine (engine.rerunText scene text).2
  | create {parent child : ContextId} {coachId instanceId argument : String} {new : Bool}
    {contexts : Contexts} (hparent : parent < engine.world.contexts.made.size)
    (h : engine.world.contexts.createInstance parent coachId instanceId argument =
      .ok (child, new, contexts)) : ProperStep engine (engine.withContexts contexts)
  | link {child parent : ContextId} {contexts : Contexts}
    (hchild : child < engine.world.contexts.made.size)
    (hparent : parent < engine.world.contexts.made.size)
    (h : engine.world.contexts.link child parent = .ok contexts) :
    ProperStep engine (engine.withContexts contexts)

/-- The engine comes, by proper steps, of one that has run nothing. -/
inductive Grown : Engine → Prop
  | start (config : Config) (commands : CommandTable) (host : Host) :
    Grown (.start config commands host)
  | step {engine engine' : Engine} (h : Grown engine) (hstep : engine.ProperStep engine') :
    Grown engine'

theorem ProperStep.step (hstep : engine.ProperStep engine') : engine.Step engine' := by
  cases hstep with
  | aside h => exact h
  | question coachId question => exact .question coachId question
  | coach coachId => exact .coach coachId
  | subcoach key question => exact .subcoach key question
  | run _ text => exact .run _ text
  | rerun _ text => exact .rerun _ text
  | create _ h => exact .create h
  | link _ _ h => exact .link h

theorem ProperStep.rooted (hstep : engine.ProperStep engine') (h : engine.Rooted) :
    engine'.Rooted := by
  have hsound := hstep.step.sound h.sound
  cases hstep with
  | aside _ hlineage hsize => exact h.of_lineage hsound hlineage hsize
  | question coachId question => exact h.evaluateQuestion coachId question
  | coach coachId => exact h.evaluateCoach coachId
  | subcoach key question => exact h.evaluateInstance key question
  | run hactive text => exact h.runText hactive text
  | rerun hactive text => exact h.rerunText hactive text
  | create hparent hcreate => exact ⟨hsound, h.grounded.createInstance hparent hcreate⟩
  | link hchild hparent hlink => exact ⟨hsound, h.grounded.link hchild hparent hlink⟩

/-- **Above contexts that exist there are only such.** -/
theorem Grown.rooted (h : engine.Grown) : engine.Rooted := by
  induction h with
  | start config commands host => exact ⟨sound_start config commands host, .empty⟩
  | step _ hstep ih => exact hstep.rooted ih

theorem grown_pair (config : Config) (commands : CommandTable) (host : Host)
    (coachId subcoachId instanceId : String) :
    Grown ((start config commands host).withContexts (.pair coachId subcoachId instanceId)) := by
  have hstart : Grown (start config commands host) := .start config commands host
  have hparent : Grown ((start config commands host).obtain coachId).2 :=
    .step hstart (.aside (.obtain coachId) rfl (Nat.zero_le _))
  unfold Contexts.pair
  dsimp only
  cases hchild : ((∅ : Contexts).obtain coachId).2.createInstance ((∅ : Contexts).obtain coachId).1
      subcoachId instanceId "" with
  | error e => exact hparent
  | ok r => exact .step hparent (.create (Contexts.Named.empty.obtain_lt coachId) hchild)

/-! ### What a question owns -/

/-- **A question that was evaluated owns what the pass contributed, and nothing else**: in its own
context under its id, and in each context above under its id qualified with the context's name. -/
theorem Grown.contributions (h : engine.Grown) {scene : Scene}
    (hactive : scene.active < engine.world.contexts.made.size) (keep : String) (lines : Listing)
    (name : String) :
    let ds := passCalls scene lines (engine.world.revert scene keep)
    let w := (runQuestion scene keep lines engine.world).2
    w.owned scene.active scene.question name = Dispatch.addedTo scene.active name ds ∧
      ∀ above ∈ w.contexts.ancestors scene.active,
        w.owned above (qualifiedSource (w.get scene.active).name scene.question) name =
          Dispatch.addedTo above name ds := by
  intro ds w
  have hgrounded := h.rooted.grounded
  have hkeeps := World.keeps_runQuestion hgrounded hactive keep lines
  have hname : (w.get scene.active).name = (engine.world.get scene.active).name :=
    hkeeps.names.same _ hactive
  refine ⟨?_, fun above hmem => ?_⟩
  · have hown := World.owned_runQuestion hactive hactive (.inl rfl) keep lines name
    rwa [World.sourceAt, if_pos rfl] at hown
  · rw [hkeeps.above] at hmem
    have hne : above ≠ scene.active := engine.world.contexts.lineage.ne_of_mem_ancestors hmem
    have hown := World.owned_runQuestion hactive (hgrounded _ above hmem).2 (.inr hmem) keep lines name
    rw [World.sourceAt, if_neg hne] at hown
    rw [hname]
    exact hown

/-- An instance that was removed and made again takes back what the one before it contributed above,
also where the pass before faulted. -/
theorem Grown.contributions_remade :
    let host := (∅ : Host).addCoach (.ofId "b")
    let before := (((Engine.start .standard .builtin host).withContexts (.pair "a" "b" "c")).rerunText
      ⟨1, .ofId "b", "q1", .builtin⟩
      "TRUE : : \x7b parent.addScore(\"s\", 5); addScore(\"s\", \"x\"); \x7d;").2
    let engine := (before.rerunText ⟨0, .ofId "a", "q0", .builtin⟩
      "TRUE : : \x7b removeSubcoach(\"b\", \"c\"); createSubcoach(\"b\", \"c\"); \x7d;").2
    let scene : Scene := ⟨2, .ofId "b", "q1", .builtin⟩
    let lines : Listing := [⟨.value (.bool true), "", [
      .call (.levels 0) "addScore" [.value (.string "s"), .value (.ofInt 2)],
      .call .root "addScore" [.value (.string "s"), .value (.ofInt 1)],
      .call (.levels 0) "capScore" [.value (.string "s"), .value (.ofInt 3)]]⟩]
    let w := (runQuestion scene "" lines engine.world).2
    engine.Grown ∧ scene.active < engine.world.contexts.made.size ∧
      engine.world.owned 0 "a.b.c/q1" "s" = [.value (.ofInt 5)] ∧
      w.owned 2 "q1" "s" = [.value (.ofInt 2), .cap (.ofInt 3)] ∧
      w.owned 0 "a.b.c/q1" "s" = [.value (.ofInt 1)] := by
  intro host before engine scene lines w
  have hbefore : before.Grown := .step (grown_pair _ _ _ _ _ _) (.rerun (by decide +kernel) _)
  have hgrown : engine.Grown := .step hbefore (.rerun (by decide +kernel) _)
  let ds := passCalls scene lines (engine.world.revert scene "")
  obtain ⟨hactive, hmem, hname, hold, hfirst, habove⟩ :
      scene.active < engine.world.contexts.made.size ∧ 0 ∈ w.contexts.ancestors scene.active ∧
        qualifiedSource (w.get scene.active).name scene.question = "a.b.c/q1" ∧
        engine.world.owned 0 "a.b.c/q1" "s" = [.value (.ofInt 5)] ∧
        Dispatch.addedTo 2 "s" ds = [.value (.ofInt 2), .cap (.ofInt 3)] ∧
        Dispatch.addedTo 0 "s" ds = [.value (.ofInt 1)] := by decide +kernel
  obtain ⟨hown, hrest⟩ := hgrown.contributions hactive "" lines "s"
  exact ⟨hgrown, hactive, hold, hown.trans hfirst, hname ▸ (hrest 0 hmem).trans habove⟩

/-! ### What a question touches -/

/-- **A question that is evaluated touches only its own branch.** Other contexts stay as they were,
new ones are fresh; in its own context and in those above, it leaves what other sources have
contributed to scores. -/
theorem Grown.touches_branch (h : engine.Grown) {scene : Scene}
    (hactive : scene.active < engine.world.contexts.made.size) (keep : String) (lines : Listing) :
    let w := engine.world
    let w' := (runQuestion scene keep lines w).2
    w.contexts.Confined (w.contexts.branch scene.active) w'.contexts ∧
      ∀ name, w'.others scene.active scene.question name =
          w.others scene.active scene.question name ∧
        ∀ above ∈ w.contexts.ancestors scene.active,
          w'.others above (qualifiedSource (w.get scene.active).name scene.question) name =
            w.others above (qualifiedSource (w.get scene.active).name scene.question) name := by
  intro w w'
  have hgrounded := h.rooted.grounded
  refine ⟨World.confined_runQuestion hgrounded hactive keep lines, fun name => ⟨?_, ?_⟩⟩
  · have hothers := World.others_runQuestion hactive hactive keep lines name
    rwa [World.sourceAt, if_pos rfl] at hothers
  · intro above hmem
    have hne : above ≠ scene.active := w.contexts.lineage.ne_of_mem_ancestors hmem
    have hothers := World.others_runQuestion hactive (hgrounded _ above hmem).2 keep lines name
    rwa [World.sourceAt, if_neg hne] at hothers

/-- Two instances beside each other run one question. -/
theorem Grown.touches_branch_siblings :
    let host := (∅ : Host).addCoach (.ofId "b")
    let before := (((Engine.start .standard .builtin host).withContexts (.pair "a" "b" "c")).rerunText
      ⟨0, .ofId "a", "q0", .builtin⟩
      "TRUE : : \x7b createSubcoach(\"b\", \"d\"); addScore(\"s\", 7); \x7d;").2
    let engine := (before.rerunText ⟨2, .ofId "b", "q1", .builtin⟩
      "TRUE : : \x7b set(\"x\", 1); parent.addScore(\"s\", 3); \x7d;").2
    let scene : Scene := ⟨1, .ofId "b", "q1", .builtin⟩
    let lines : Listing := [⟨.value (.bool true), "", [
      .call (.levels 0) "createSubcoach" [.value (.string "b"), .value (.string "e")],
      .call (.levels 0) "set" [.value (.string "x"), .value (.ofInt 2)],
      .call .root "addScore" [.value (.string "s"), .value (.ofInt 1)]]⟩]
    let w := (runQuestion scene "" lines engine.world).2
    engine.Grown ∧ scene.active < engine.world.contexts.made.size ∧
      w.contexts.keys = ["a", "a.b.c", "a.b.c.b.e", "a.b.d"] ∧
      w.get 2 = engine.world.get 2 ∧ (w.get 3).IsFresh ∧
      w.others 0 "a.b.c/q1" "s" =
        [("q0", .value (.ofInt 7)), ("a.b.d/q1", .value (.ofInt 3))] := by
  intro host before engine scene lines w
  have hbefore : before.Grown := .step (grown_pair _ _ _ _ _ _) (.rerun (by decide +kernel) _)
  have hgrown : engine.Grown := .step hbefore (.rerun (by decide +kernel) _)
  obtain ⟨hactive, habove, hname, hkeys, hsize, hothers⟩ :
      scene.active < engine.world.contexts.made.size ∧
        engine.world.contexts.ancestors scene.active = [0] ∧
        qualifiedSource (engine.world.get scene.active).name scene.question = "a.b.c/q1" ∧
        w.contexts.keys = ["a", "a.b.c", "a.b.c.b.e", "a.b.d"] ∧
        engine.world.contexts.made.size = 3 ∧
        engine.world.others 0 "a.b.c/q1" "s" =
          [("q0", .value (.ofInt 7)), ("a.b.d/q1", .value (.ofInt 3))] := by decide +kernel
  obtain ⟨hconfined, hscores⟩ := hgrown.touches_branch hactive "" lines
  have hsame : w.get 2 = engine.world.get 2 := by
    refine hconfined.same 2 (hsize ▸ Nat.lt_succ_self 2) ?_
    rw [Contexts.branch, habove]
    decide
  have hrest := (hscores "s").2 0 (habove ▸ List.mem_cons_self)
  rw [hname] at hrest
  exact ⟨hgrown, hactive, hkeys, hsame, hconfined.fresh 3 (Nat.le_of_eq hsize), hrest.trans hothers⟩

end Engine

end CoachScript
