import CoachScript.Proofs.Eval.Rules
import CoachScript.Proofs.Pass.Coached

/-!
# What an engine hides

* `World.RangeHidden`: a range of questions is hidden, or shown, and nothing else. `rangeHidden_evaluate`: that
  is what a call comes to that hides a range; `evaluate_hideRange_append`: in one step or in two.
* `Engine.Served`: what an engine comes to that runs scripts while the coaches stay the same.
  `Served.evaluateQuestion`, `Served.evaluateCoach`, `Served.evaluateInstance`: so it does where it evaluates.
* **`Engine.Served.visibility`**: whenever a command runs on such an engine, contexts hide only questions of
  their coaches, and hiding a range hides just the questions in it, counts each that changes once, and is
  hiding two parts of it.
-/

namespace CoachScript

/-! ### Ranges -/

/-- From one world to the next, just the questions of the coach from one id up to, but not with, another come
to be hidden, or shown, in a context; so many different questions had not been so. -/
structure World.RangeHidden (w w' : World) (target : ContextId) (coach : Coach) (low high : String)
    (hide : Bool) (count : Nat) : Prop where
  hidden : ∀ question, (w'.get target).hidden.contains question =
    if question ∈ coach.questionIds ∧ low ≤ question ∧ question < high then hide
    else (w.get target).hidden.contains question
  rest : w' = w.modify target fun c => { c with hidden := (w'.get target).hidden }
  count : count = {question | (w'.get target).hidden.contains question ≠
    (w.get target).hidden.contains question}.ncard

/-- A call that hides a range, or shows it. -/
def hideRange (path : Path) (name low high : String) (hide : Bool) : Expr :=
  .call path name ([.string low, .string high, .bool hide].map .value)

section HideRange

variable {scene : Scene} {w : World} {path : Path} {name : String} {coach : Coach}
  (hname : scene.Answers name 3 .setHiddenRange)
  (hscene : w.host.coach? scene.coach.id = some scene.coach) (hguard : w.host.guard .coach = .ok ())
  (hcoach : w.host.coach? (w.get (w.contexts.resolve scene.active path)).coachId = some coach)
  (hmade : w.contexts.resolve scene.active path < w.contexts.made.size)
include hname hscene hguard hcoach hmade

theorem evaluate_hideRange (low high : String) (hide : Bool) :
    let call : Call := ⟨name, scene, w.contexts.resolve scene.active path⟩
    let changed := Builtin.hideAll hide (call.context w).hidden (Builtin.rangeIds coach low high)
    evaluate scene (hideRange path name low high hide) w =
      (.ok (.ofInt changed.1), Builtin.withHidden call changed.2 w) := by
  intro call changed
  have htarget : Builtin.targetCoach call w = .ok coach := Builtin.targetCoach_eq hscene hguard hcoach
  have hcount : Command.setHiddenRange.arity.accepts
      [Value.string low, .string high, .bool hide].length := hname.2
  unfold hideRange
  rw [evaluate_values hname.1 hcount nofun]
  exact Builtin.setHiddenRange_eq hmade htarget low high hide

/-- **A range is hidden, and nothing else changes.** -/
theorem rangeHidden_evaluate (low high : String) (hide : Bool) : ∃ count w',
      evaluate scene (hideRange path name low high hide) w = (.ok (.ofInt (count : Nat)), w') ∧
        w.RangeHidden w' (w.contexts.resolve scene.active path) coach low high hide count := by
  let call : Call := ⟨name, scene, w.contexts.resolve scene.active path⟩
  let changed := Builtin.hideAll hide (call.context w).hidden (Builtin.rangeIds coach low high)
  have hget : ((Builtin.withHidden call changed.2 w).get call.target).hidden = changed.2 := by
    have hmodified : (Builtin.withHidden call changed.2 w).get call.target =
        if call.target = call.target ∧ call.target < w.contexts.made.size then
          { w.get call.target with hidden := changed.2 } else w.get call.target :=
      w.contexts.get_modify call.target call.target _
    rw [hmodified, if_pos ⟨rfl, hmade⟩]
  refine ⟨changed.1, Builtin.withHidden call changed.2 w,
    evaluate_hideRange hname hscene hguard hcoach hmade low high hide, ⟨fun question => ?_, ?_, ?_⟩⟩
  · rw [hget, Builtin.contains_hideAll]
    simp only [Builtin.mem_rangeIds]
    rfl
  · rw [hget]
    rfl
  · rw [hget]
    exact Builtin.count_hideAll _ _ _

/-- **A range is hidden in two parts, or at once.** -/
theorem evaluate_hideRange_append {low mid high : String} (hlow : low ≤ mid) (hhigh : mid ≤ high)
    (hide : Bool) : ∃ (first second : Nat) (between w' : World),
      evaluate scene (hideRange path name low mid hide) w = (.ok (.ofInt first), between) ∧
        evaluate scene (hideRange path name mid high hide) between = (.ok (.ofInt second), w') ∧
        evaluate scene (hideRange path name low high hide) w = (.ok (.ofInt (first + second : Nat)), w') := by
  let call : Call := ⟨name, scene, w.contexts.resolve scene.active path⟩
  let first := Builtin.hideAll hide (call.context w).hidden (Builtin.rangeIds coach low mid)
  let second := Builtin.hideAll hide first.2 (Builtin.rangeIds coach mid high)
  let between := Builtin.withHidden call first.2 w
  have hget : between.get call.target = { call.context w with hidden := first.2 } :=
    (w.contexts.get_modify call.target call.target _).trans (if_pos ⟨rfl, hmade⟩)
  have hcoach' : between.host.coach? (between.get (between.contexts.resolve scene.active path)).coachId =
      some coach := by
    show w.host.coach? (between.get call.target).coachId = some coach
    rw [hget]
    exact hcoach
  have hscene' : between.host.coach? scene.coach.id = some scene.coach := hscene
  have hguard' : between.host.guard .coach = .ok () := hguard
  have hhidden : (call.context between).hidden = first.2 := congrArg Context.hidden hget
  have hsecond : evaluate scene (hideRange path name mid high hide) between =
      (.ok (.ofInt second.1), Builtin.withHidden call second.2 w) := by
    have hmade' : call.target < between.contexts.made.size := by
      show _ < (w.contexts.modify call.target _).made.size
      rwa [Contexts.size_modify]
    have hrun := evaluate_hideRange hname hscene' hguard' hcoach' hmade' mid high hide
    have hcall : (⟨name, scene, between.contexts.resolve scene.active path⟩ : Call) = call := rfl
    dsimp only at hrun
    rw [hcall, hhidden] at hrun
    rw [hrun]
    exact congrArg (Prod.mk _) (Builtin.withHidden_withHidden call first.2 second.2 w)
  have hwhole := evaluate_hideRange hname hscene hguard hcoach hmade low high hide
  have hparts : Builtin.hideAll hide (call.context w).hidden (Builtin.rangeIds coach low high) =
      (first.1 + second.1, second.2) := Builtin.hideAll_range hlow hhigh hide _
  dsimp only at hwhole
  rw [hparts] at hwhole
  exact ⟨first.1, second.1, between, _, evaluate_hideRange hname hscene hguard hcoach hmade low mid hide,
    hsecond, hwhole⟩

end HideRange

/-! ### Engines -/

namespace Engine

variable {engine : Engine}

/-- What an engine comes to that runs scripts, or evaluates questions with them, in scenes of coaches that its
host knows. Between the runs contexts are removed, listings cached or forgotten, and the host changes, but its
coaches stay. -/
inductive Served : Engine → Prop
  | start (config : Config) (commands : CommandTable) {host : Host} (h : host.Filed) :
    Served (.start config commands host)
  | furnish {engine : Engine} (h : Served engine) {host : Host}
    (hcoaches : host.coaches = engine.world.host.coaches) :
    Served { engine with world := { engine.world with host } }
  | remember {engine : Engine} (h : Served engine) (cache : ListingCache) : Served { engine with cache }
  | obtain {engine : Engine} (h : Served engine) {coachId : String} {coach : Coach}
    (hcoach : engine.coach coachId = .ok coach) : Served (engine.obtain coachId).2
  | run {engine : Engine} (h : Served engine) {scene : Scene} (hscene : scene.Attended engine.world)
    (lines : Listing) : Served (engine.runListing scene lines).2
  | rerun {engine : Engine} (h : Served engine) {scene : Scene} (hscene : scene.Attended engine.world)
    (lines : Listing) : Served (engine.rerunListing scene lines).2
  | reset {engine : Engine} (h : Served engine) (key : String) : Served (engine.reset key).2
  | resetAll {engine : Engine} (h : Served engine) :
    Served (engine.withContexts engine.world.contexts.resetAll)

/-- Where a script comes to that the engine runs in a scene: the world in which it begins, which may be
without what the scene's question has left, or a world that one of its commands leaves. -/
def ComesTo (engine : Engine) (scene : Scene) (lines : Listing) (w : World) : Prop :=
  ∃ begun, (begun = engine.world ∨ begun = engine.world.revert scene engine.config.systemPrefix) ∧
    (w = begun ∨ ∃ m ∈ Dispatch.moments (passCalls scene lines begun) begun, w = m.after)

/-- **Wherever a script comes to, contexts hide questions of their coaches.** -/
theorem coached_comesTo (h : engine.world.Coached) {scene : Scene} (hscene : scene.Attended engine.world)
    {lines : Listing} {w : World} (hw : engine.ComesTo scene lines w) : w.Coached ∧ scene.Attended w := by
  obtain ⟨begun, hbegun, hw⟩ := hw
  have hboth : begun.Coached ∧ scene.Attended begun := by
    rcases hbegun with rfl | rfl
    · exact ⟨h, hscene⟩
    · exact ⟨h.revert _ _, hscene.of_same (World.sameCoaches_revert _ _)⟩
  rcases hw with rfl | ⟨m, hm, rfl⟩
  · exact hboth
  · exact coached_moments hboth.1 hboth.2 lines m hm

/-- A coach that was found is filed under the id that was asked for. -/
theorem coach?_of_coach {coachId : String} {coach : Coach} (h : engine.coach coachId = .ok coach) :
    engine.world.host.coach? coachId = some coach := by
  unfold Engine.coach at h
  rcases hfound : engine.world.host.coach coachId with e | _ | other
  · rw [hfound] at h
    cases h
  · rw [hfound] at h
    cases h
  · rw [hfound] at h
    cases h
    exact Host.coach?_eq_of_coach hfound

theorem sameCoaches_evaluateIn (engine : Engine) (active : ContextId) (coach : Coach) (question : String) :
    engine.world.SameCoaches (engine.evaluateIn active coach question).2.world :=
  evaluateIn_of (P := engine.world.SameCoaches) (.refl _)
    (fun scene keep lines => sameCoaches_runQuestion scene keep lines engine.world) active coach question

namespace Served

/-- **An engine hides questions of known coaches only.** -/
theorem coached (h : engine.Served) : engine.world.Coached := by
  induction h with
  | start config commands h =>
    refine ⟨h, fun key id hid => ?_, fun id parent hparent => ?_, fun id question hcontains => ?_⟩
    · cases hid
    · cases hparent
    · cases hcontains
  | furnish _ hcoaches ih => exact ih.withHost hcoaches
  | remember _ cache ih => exact ih
  | obtain _ hcoach ih => exact ih.obtain ⟨_, coach?_of_coach hcoach⟩
  | run _ hscene lines ih => exact coached_runLines ih hscene lines
  | rerun _ hscene lines ih => exact coached_runQuestion ih hscene _ lines
  | reset _ key ih => exact ih.removeTree _
  | resetAll _ ih => exact ih.of_stored _ rfl rfl fun key id hid => by cases hid

variable (h : engine.Served)
include h

/-- A question is evaluated with its script. -/
theorem evaluateIn {active : ContextId} {coach : Coach} (hactive : engine.world.Known active)
    (hcoach : engine.world.host.coach? coach.id = some coach) (question : String) :
    (engine.evaluateIn active coach question).2.Served := by
  unfold Engine.evaluateIn
  cases coach.compose? question with
  | none => exact h
  | some text =>
    dsimp only
    have hnext : (engine.listing text).2.Served := h.remember _
    have hworld : (engine.listing text).2.world = engine.world := rfl
    rcases hlisting : engine.listing text with ⟨e | lines, next⟩
    · rwa [hlisting] at hnext
    · rw [hlisting] at hnext hworld
      dsimp only
      cases next.world.host.answer (next.world.get active).name question with
      | error e => exact hnext
      | ok answer =>
        rw [← hworld] at hactive hcoach
        have hscene : (next.scene active coach question).Attended next.world := ⟨hactive, hcoach⟩
        have hrun := hnext.rerun hscene lines
        rcases hreport : next.rerunListing (next.scene active coach question) lines with ⟨report, later⟩
        rwa [hreport] at hrun

theorem evaluateQuestion (coachId question : String) :
    (engine.evaluateQuestion coachId question).2.Served := by
  unfold Engine.evaluateQuestion
  cases hcoach : engine.coach coachId with
  | error e => exact h
  | ok coach =>
    have hobtained := h.obtain hcoach
    have hactive := hobtained.coached.stored _ _ (engine.world.contexts.find?_obtain coachId)
    exact hobtained.evaluateIn hactive (h.coached.filed.coach?_id (coach?_of_coach hcoach)) question

omit h in
theorem evaluateAllIn {active : ContextId} {coach : Coach} (questions : List String) :
    ∀ {engine : Engine}, engine.Served → engine.world.Known active →
      engine.world.host.coach? coach.id = some coach →
      (engine.evaluateAllIn active coach questions).2.Served := by
  induction questions with
  | nil => exact fun h _ _ => h
  | cons question more ih =>
    intro engine h hactive hcoach
    have hnext := h.evaluateIn hactive hcoach question
    have hsame := sameCoaches_evaluateIn engine active coach question
    unfold Engine.evaluateAllIn
    rcases hrun : engine.evaluateIn active coach question with ⟨e | report, next⟩
    · rwa [hrun] at hnext
    · rw [hrun] at hnext hsame
      exact ih hnext (hsame.known hactive) ((hsame.coach?_eq coach.id).trans hcoach)

theorem evaluateCoach (coachId : String) : (engine.evaluateCoach coachId).2.Served := by
  unfold Engine.evaluateCoach
  cases hcoach : engine.coach coachId with
  | error e => exact h
  | ok coach =>
    have hobtained := h.obtain hcoach
    have hactive := hobtained.coached.stored _ _ (engine.world.contexts.find?_obtain coachId)
    exact evaluateAllIn _ hobtained hactive (h.coached.filed.coach?_id (coach?_of_coach hcoach))

theorem evaluateInstance (key question : String) : (engine.evaluateInstance key question).2.Served := by
  unfold Engine.evaluateInstance
  cases hfound : engine.world.contexts.find? key with
  | none => exact h
  | some active =>
    dsimp only
    cases hcoach : engine.coach (engine.world.get active).coachId with
    | error e => exact h
    | ok coach =>
      exact h.evaluateIn (h.coached.stored _ _ hfound) (h.coached.filed.coach?_id (coach?_of_coach hcoach))
        question

end Served

/-- **What an engine hides.** Its contexts hide only questions of their coaches, between runs and wherever a
script comes to in one. A script that hides a range of questions, or shows it, in a context of the scene
where the host gives out coaches, does so with just the questions of that context's coach in the range, and
learns how many different ones have changed. For two ranges that meet it does the same as for the whole, and
the counts add up. -/
theorem Served.visibility (h : engine.Served) :
    engine.world.HidesOwn ∧
    ∀ scene lines w, scene.Attended engine.world → engine.ComesTo scene lines w →
      w.HidesOwn ∧
      ∀ path name, scene.Answers name 3 .setHiddenRange → w.host.guard .coach = .ok () →
        (∀ low high hide, ∃ (count : Nat) (w' : World) (own : Coach),
          evaluate scene (hideRange path name low high hide) w = (.ok (.ofInt count), w') ∧
          w.host.coach? (w.get (w.contexts.resolve scene.active path)).coachId = some own ∧
          w.RangeHidden w' (w.contexts.resolve scene.active path) own low high hide count) ∧
        ∀ low mid high hide, low ≤ mid → mid ≤ high → ∃ (first second : Nat) (between w' : World),
          evaluate scene (hideRange path name low mid hide) w = (.ok (.ofInt first), between) ∧
          evaluate scene (hideRange path name mid high hide) between = (.ok (.ofInt second), w') ∧
          evaluate scene (hideRange path name low high hide) w =
            (.ok (.ofInt (first + second : Nat)), w') := by
  refine ⟨h.coached.hides, fun scene lines w hscene hw => ?_⟩
  obtain ⟨hcoached, hattended⟩ := coached_comesTo h.coached hscene hw
  refine ⟨hcoached.hides, fun path name hname hguard => ?_⟩
  obtain ⟨hmade, own, hown⟩ := hcoached.known_target hattended (w.contexts.resolve_mem scene.active path)
  constructor
  · intro low high hide
    obtain ⟨count, w', heval, hrange⟩ :=
      rangeHidden_evaluate hname hattended.coach hguard hown hmade low high hide
    exact ⟨count, w', own, heval, hown, hrange⟩
  · intro low mid high hide hlow hhigh
    exact evaluate_hideRange_append hname hattended.coach hguard hown hmade hlow hhigh hide

/-- A question that is listed twice counts once. -/
theorem visibility_repeated :
    let coach : Coach := ⟨"a", "", "", [⟨"q1", ""⟩, ⟨"q2", ""⟩, ⟨"q2", ""⟩, ⟨"q3", ""⟩]⟩
    let fresh := start .standard .builtin ((∅ : Host).addCoach coach)
    let engine := (fresh.obtain "a").2
    let scene := engine.scene 0 coach "q1"
    let w := engine.world.revert scene engine.config.systemPrefix
    let hide (low high : String) : Expr := hideRange .root "setMHidden" low high true
    engine.Served ∧ scene.Attended engine.world ∧ engine.ComesTo scene [] w ∧
      ∃ between w', evaluate scene (hide "q1" "q2") w = (.ok (.ofInt 1), between) ∧
        evaluate scene (hide "q2" "q3") between = (.ok (.ofInt 1), w') ∧
        evaluate scene (hide "q1" "q3") w = (.ok (.ofInt 2), w') := by
  intro coach fresh engine scene w hide
  have hhost : ((∅ : Host).addCoach coach).Filed := Host.filed_empty.addCoach coach
  have hcoach : fresh.coach "a" = .ok coach := by
    have hknown : fresh.world.host.coach? "a" = some coach := by decide +kernel
    unfold Engine.coach Host.coach
    rw [hknown]
    rfl
  have hserved : engine.Served := (Served.start .standard .builtin hhost).obtain hcoach
  have hscene : scene.Attended engine.world :=
    ⟨⟨by decide +kernel, coach, by decide +kernel⟩, by decide +kernel⟩
  have hcomes : engine.ComesTo scene [] w := ⟨w, .inr rfl, .inl rfl⟩
  have hname : scene.Answers "setMHidden" 3 .setHiddenRange := ⟨by decide +kernel, rfl⟩
  obtain ⟨-, hranges⟩ := hserved.visibility.2 scene [] w hscene hcomes
  obtain ⟨-, hparts⟩ := hranges .root "setMHidden" hname rfl
  obtain ⟨first, second, between, w', hfirst, hsecond, hwhole⟩ :=
    hparts "q1" "q2" "q3" true (by decide) (by decide)
  obtain rfl : between = (evaluate scene (hide "q1" "q2") w).2 := by rw [hfirst]
  have hone : (evaluate scene (hide "q1" "q2") w).1 = .ok (.ofInt 1) := by decide +kernel
  have hagain : (evaluate scene (hide "q2" "q3") (evaluate scene (hide "q1" "q2") w).2).1 =
      .ok (.ofInt 1) := by decide +kernel
  have htwo : (evaluate scene (hide "q1" "q3") w).1 = .ok (.ofInt 2) := by decide +kernel
  have hlast : (evaluate scene (hide "q2" "q3") (evaluate scene (hide "q1" "q2") w).2).2 = w' := by
    show (evaluate scene (hideRange .root "setMHidden" "q2" "q3" true) _).2 = w'
    rw [hsecond]
  have hsame : (evaluate scene (hide "q1" "q3") w).2 = w' := by
    show (evaluate scene (hideRange .root "setMHidden" "q1" "q3" true) w).2 = w'
    rw [hwhole]
  refine ⟨hserved, hscene, hcomes, (evaluate scene (hide "q1" "q2") w).2, w', ?_, ?_, ?_⟩
  · exact Prod.ext hone rfl
  · exact Prod.ext hagain hlast
  · exact Prod.ext htwo hsame

end Engine

end CoachScript
