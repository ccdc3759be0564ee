import CoachScript.Proofs.Engine.Reachable
import CoachScript.Proofs.State.Handles
import Mathlib.Algebra.GroupWithZero.Nat

/-!
# A coach and its questions

Evaluating a coach looks up the coach and its context once, evaluating its questions call by call
looks both up for each. Scripts in between create and remove instances.

* **`Call.Effect.host`**: no command changes anything of the host but the books on living instances.
* `World.SameCoach`: the coach of an id and its context are what they were. **`Call.Effect.sameCoach`**:
  no command changes these where the id has no dot, as the names of instances do.
* `Engine.evaluateEach`: calls for one question after the other, up to the first that is refused.
  `Engine.visitsIn`: evaluations in one context, likewise.
* **`Engine.evaluateCoach_inOrder`**: evaluating a coach is evaluating its questions in order; where
  there are none, its context is made all the same.
-/

namespace CoachScript

/-! ### What the names of instances leave alone -/

theorem not_dotFree_instanceName (parentName coachId instanceId : String) :
    ¬ DotFree (instanceName parentName coachId instanceId) := by
  unfold DotFree instanceName
  rw [← List.count_eq_zero, count_dots_lowercase, List.count_eq_zero, String.toList_append,
    String.toList_append]
  exact fun h => h (List.mem_append_left _ (List.mem_append_right _ (List.mem_singleton_self _)))

namespace Contexts

variable {cs ds : Contexts} {coachId : String}

theorem find?_createInstance (hdots : DotFree coachId) {parent child : ContextId}
    {subcoachId instanceId argument : String}
    (hds : cs.createInstance parent subcoachId instanceId argument = .ok (child, true, ds)) :
    ds.find? coachId = cs.find? coachId := by
  unfold find?
  rw [stored_createInstance hds, if_neg]
  intro hname
  exact not_dotFree_instanceName _ _ _ (hname ▸ dotFree_lowercase hdots)

theorem find?_removeInstance (hdots : DotFree coachId) (parent : ContextId)
    (subcoachId instanceId : String) :
    (cs.removeInstance parent subcoachId instanceId).2.find? coachId = cs.find? coachId := by
  have hkey := dotFree_lowercase hdots
  unfold find?
  refine Option.ext fun id => ?_
  rw [stored_removeInstance, and_iff_left_iff_imp]
  rintro - (hname | hbelow)
  · exact not_dotFree_instanceName _ _ _ (hname ▸ hkey)
  · exact not_isBelow_of_dotFree hkey hbelow

theorem find?_updateShelf (f : Recommendations → Recommendations) (shelf : Shelf)
    (coachId : String) : (cs.updateShelf f shelf).find? coachId = cs.find? coachId := by
  cases shelf <;> rfl

theorem find?_obtain (cs : Contexts) (coachId : String) :
    (cs.obtain coachId).2.find? coachId = some (cs.obtain coachId).1 := by
  unfold obtain
  cases hfound : cs.find? coachId with
  | some id => exact hfound
  | none =>
    refine (stored_add cs (lowercase coachId) (.ofCoach coachId) _).trans ?_
    rw [if_pos rfl]
    rfl

end Contexts

namespace Host

theorem same_createInstance (host : Host) (coachId name : String) :
    Ensures (fun host' : Host => ∃ instances, host' = { host with instances })
      (host.createInstance coachId name) := by
  unfold createInstance
  refine .bind fun _ _ => ?_
  cases host.coach? coachId with
  | none => exact .error _
  | some coach => exact .ok ⟨_, rfl⟩

theorem same_removeInstance (host : Host) (coachId name : String) :
    Ensures (fun host' : Host => ∃ instances, host' = { host with instances })
      (host.removeInstance coachId name) := by
  unfold removeInstance
  exact .bind fun _ _ => .ok ⟨_, rfl⟩

end Host

/-- **A command changes nothing of the host but the books on living instances.** -/
theorem Call.Effect.host {call : Call} {w w' : World} (h : call.Effect w w') :
    ∃ instances, w'.host = { w.host with instances } := by
  cases h with
  | nothing | logged | contributed | written | badged | showed | reshelved | refused => exact ⟨_, rfl⟩
  | created _ hhost => exact Host.same_createInstance _ _ _ _ hhost
  | removed hhost =>
    rcases hhost with rfl | ⟨handle, -, hhost⟩
    · exact ⟨_, rfl⟩
    · exact Host.same_removeInstance _ _ _ _ hhost

/-- What holds of the world, and of what passes make of it, holds after evaluating a question. -/
theorem Engine.evaluateIn_of {P : World → Prop} {engine : Engine} (h : P engine.world)
    (hrun : ∀ scene keep lines, P (runQuestion scene keep lines engine.world).2) (active : ContextId)
    (coach : Coach) (question : String) : P (engine.evaluateIn active coach question).2.world := by
  unfold evaluateIn
  cases coach.compose? question with
  | none => exact h
  | some text =>
    dsimp only
    rcases hlisting : engine.listing text with ⟨read, next⟩
    have hworld : engine.world = next.world := congrArg (·.2.world) hlisting
    rw [hworld] at h hrun
    cases read with
    | error e => exact h
    | ok lines =>
      dsimp only
      cases next.world.host.answer (next.world.get active).name question with
      | error e => exact h
      | ok answer => exact hrun _ _ lines

/-! ### A coach while scripts run -/

/-- The coach of an id and its context are what they were. -/
structure World.SameCoach (coachId : String) (w w' : World) : Prop where
  context : w'.contexts.find? coachId = w.contexts.find? coachId
  coach : w'.host.coach coachId = w.host.coach coachId

section Kept

variable {coachId : String} (hdots : DotFree coachId)
include hdots

/-- **A command leaves the coach of an id without a dot, and its context, as they were.** -/
theorem Call.Effect.sameCoach {call : Call} {w w' : World} (h : call.Effect w w') :
    w.SameCoach coachId w' := by
  obtain ⟨instances, hhost⟩ := h.host
  refine ⟨?_, congrArg (·.coach coachId) hhost⟩
  cases h with
  | nothing | logged | contributed | written | badged | showed => rfl
  | reshelved f => exact Contexts.find?_updateShelf f _ coachId
  | created hchild => exact Contexts.find?_createInstance hdots hchild
  | refused hchild =>
    exact (Contexts.find?_removeInstance hdots _ _ _).trans
      (Contexts.find?_createInstance hdots hchild)
  | removed => exact Contexts.find?_removeInstance hdots _ _ _

theorem World.sameCoach_runQuestion (scene : Scene) (keep : String) (lines : Listing) (w : World) :
    w.SameCoach coachId (runQuestion scene keep lines w).2 := by
  refine runLines_keeps (P := w.SameCoach coachId) scene (fun _ v v' _ _ heffect h => ?_)
    (fun _ _ h => ⟨h.context, h.coach⟩) lines ?_
  · have hstep := heffect.sameCoach hdots
    exact ⟨hstep.context.trans h.context, hstep.coach.trans h.coach⟩
  · refine ⟨?_, by rw [host_revert]⟩
    unfold Contexts.find?
    rw [stored_revert]

theorem Engine.sameCoach_evaluateIn (engine : Engine) (active : ContextId) (coach : Coach)
    (question : String) :
    engine.world.SameCoach coachId (engine.evaluateIn active coach question).2.world :=
  evaluateIn_of (P := engine.world.SameCoach coachId) ⟨rfl, rfl⟩
    (fun scene keep lines => World.sameCoach_runQuestion hdots scene keep lines engine.world)
    active coach question

end Kept

/-! ### Questions in order -/

namespace Engine

variable {engine engine' : Engine} {coachId : String} {coach : Coach}

/-- What came of calls one after the other: the reports of those that ran, the refusal that ended
them, if there was one, and the engine that they leave. -/
structure Calls where
  reports : List PassReport
  refusal? : Option Refusal
  engine : Engine

/-- The outcome of calls together: their refusal, or else their counts in total and all faults. -/
def Calls.outcome (calls : Calls) : Outcome :=
  match calls.refusal? with
  | some e => .error e
  | none => .ok ⟨(calls.reports.map (·.executed)).sum, calls.reports.flatMap (·.faults)⟩

/-- Evaluations of questions in a context, one after the other, up to the first that is refused. -/
def visitsIn (engine : Engine) (active : ContextId) (coach : Coach) : List String → Calls
  | [] => ⟨[], none, engine⟩
  | question :: more =>
    match engine.evaluateIn active coach question with
    | (.error e, engine) => ⟨[], some e, engine⟩
    | (.ok report, engine) =>
      let calls := engine.visitsIn active coach more
      { calls with reports := report :: calls.reports }

/-- Calls for one question of a coach after the other, up to the first that is refused. -/
def evaluateEach (engine : Engine) (coachId : String) : List String → Calls
  | [] => ⟨[], none, engine⟩
  | question :: more =>
    match engine.evaluateQuestion coachId question with
    | (.error e, engine) => ⟨[], some e, engine⟩
    | (.ok report, engine) =>
      let calls := engine.evaluateEach coachId more
      { calls with reports := report :: calls.reports }

theorem Calls.outcome_cons (report : PassReport) (calls : Calls) :
    ({ calls with reports := report :: calls.reports } : Calls).outcome =
      calls.outcome.map report.append := by
  unfold outcome
  cases calls.refusal? <;> rfl

theorem Calls.outcome_of_reports {calls : Calls} {reports : List PassReport}
    (h : (calls.refusal?, calls.reports) = (none, reports)) :
    calls.outcome = .ok ⟨(reports.map (·.executed)).sum, reports.flatMap (·.faults)⟩ := by
  obtain ⟨hrefusal, rfl⟩ := Prod.mk.inj h
  unfold outcome
  rw [hrefusal]

theorem Calls.complaint?_outcome (calls : Calls) :
    calls.outcome.complaint? = none ↔
      calls.refusal? = none ∧ ∀ report ∈ calls.reports, report.faults = [] := by
  unfold outcome Outcome.complaint?
  cases calls.refusal? <;> simp

theorem coach_of_same (h : engine.world.SameCoach coachId engine'.world) :
    engine'.coach coachId = engine.coach coachId := by
  unfold Engine.coach
  rw [h.coach]

/-- Where the context is stored, a call is an evaluation in that context. -/
theorem evaluateQuestion_of_find? (hcoach : engine.coach coachId = .ok coach) {active : ContextId}
    (hactive : engine.world.contexts.find? coachId = some active) (question : String) :
    engine.evaluateQuestion coachId question = engine.evaluateIn active coach question := by
  unfold evaluateQuestion Engine.obtain Contexts.obtain
  rw [hcoach, hactive]

/-- The context may as well be made before the call. -/
theorem evaluateQuestion_obtain (hcoach : engine.coach coachId = .ok coach) (question : String) :
    (engine.obtain coachId).2.evaluateQuestion coachId question =
      engine.evaluateQuestion coachId question := by
  have hobtained : (engine.obtain coachId).2.coach coachId = .ok coach := hcoach
  rw [evaluateQuestion_of_find? hobtained (Contexts.find?_obtain _ coachId)]
  unfold evaluateQuestion
  rw [hcoach]
  rfl

theorem evaluateEach_obtain (hcoach : engine.coach coachId = .ok coach) (question : String)
    (more : List String) : (engine.obtain coachId).2.evaluateEach coachId (question :: more) =
      engine.evaluateEach coachId (question :: more) := by
  unfold evaluateEach
  rw [evaluateQuestion_obtain hcoach]

theorem obtain_eq (engine : Engine) (coachId : String) :
    (engine.obtain coachId).2 =
      if engine.world.contexts.contains coachId then engine
      else engine.withContexts
        (engine.world.contexts.add (lowercase coachId) (.ofCoach coachId)).2 := by
  unfold Engine.obtain Contexts.obtain Contexts.contains
  cases engine.world.contexts.find? coachId <;> rfl

/-- Evaluating questions in turn gives what came of the evaluations together. -/
theorem evaluateAllIn_eq_visitsIn (active : ContextId) (coach : Coach) (questions : List String) :
    ∀ engine : Engine, engine.evaluateAllIn active coach questions =
      ((engine.visitsIn active coach questions).outcome,
        (engine.visitsIn active coach questions).engine) := by
  induction questions with
  | nil => exact fun _ => rfl
  | cons question more ih =>
    intro engine
    unfold evaluateAllIn visitsIn
    rcases engine.evaluateIn active coach question with ⟨e | report, next⟩
    · rfl
    · dsimp only
      rw [ih, Calls.outcome_cons]

/-- Where the coach's context is stored, evaluations in it are calls. What one question does keeps the
context for the next. -/
theorem visitsIn_eq (hdots : DotFree coachId) {active : ContextId} (questions : List String) :
    ∀ {engine : Engine}, engine.coach coachId = .ok coach →
      engine.world.contexts.find? coachId = some active →
      engine.visitsIn active coach questions = engine.evaluateEach coachId questions := by
  induction questions with
  | nil => exact fun _ _ => rfl
  | cons question more ih =>
    intro engine hcoach hactive
    have hsame := sameCoach_evaluateIn hdots engine active coach question
    unfold visitsIn evaluateEach
    rw [evaluateQuestion_of_find? hcoach hactive]
    rcases hrun : engine.evaluateIn active coach question with ⟨e | report, next⟩
    · rfl
    · rw [hrun] at hsame
      have hrest := ih ((coach_of_same hsame).trans hcoach) (hsame.context.trans hactive)
      dsimp only
      rw [hrest]

/-- **Where the coach's context is stored, evaluating questions in it is calling for each.** -/
theorem evaluateAllIn_eq (hdots : DotFree coachId) {active : ContextId} (questions : List String)
    (hcoach : engine.coach coachId = .ok coach)
    (hactive : engine.world.contexts.find? coachId = some active) :
    engine.evaluateAllIn active coach questions =
      ((engine.evaluateEach coachId questions).outcome,
        (engine.evaluateEach coachId questions).engine) := by
  rw [evaluateAllIn_eq_visitsIn, visitsIn_eq hdots questions hcoach hactive]

/-- **Evaluating a coach is evaluating its questions in order**, each by a call of its own, up to the
first that is refused. It gives that refusal, or else the counts in total and all faults in order.
Only the context of a coach without questions is made by no call. -/
theorem evaluateCoach_inOrder (hdots : DotFree coachId) (hcoach : engine.coach coachId = .ok coach) :
    let calls := engine.evaluateEach coachId coach.questionIds
    engine.evaluateCoach coachId =
      (calls.outcome,
        if coach.questions = [] ∧ ¬ engine.world.contexts.contains coachId then
          engine.withContexts
            (engine.world.contexts.add (lowercase coachId) (.ofCoach coachId)).2
        else calls.engine) ∧
      ((engine.evaluateCoach coachId).1.complaint? = none ↔
        calls.refusal? = none ∧ ∀ report ∈ calls.reports, report.faults = []) := by
  intro calls
  -- The one context is made first; the first call would make the same one.
  have hrun : engine.evaluateCoach coachId =
      (((engine.obtain coachId).2.evaluateEach coachId coach.questionIds).outcome,
        ((engine.obtain coachId).2.evaluateEach coachId coach.questionIds).engine) := by
    unfold evaluateCoach
    rw [hcoach]
    exact evaluateAllIn_eq hdots _ hcoach (Contexts.find?_obtain _ coachId)
  suffices heq : engine.evaluateCoach coachId = (calls.outcome, _) by
    exact ⟨heq, by rw [heq]; exact calls.complaint?_outcome⟩
  rw [hrun]
  unfold calls Coach.questionIds
  cases coach.questions with
  | nil =>
    refine Prod.ext rfl ((obtain_eq engine coachId).trans ?_)
    by_cases hstored : engine.world.contexts.contains coachId
    · rw [if_pos hstored, if_neg fun h => h.2 hstored]
      rfl
    · rw [if_neg hstored, if_pos ⟨rfl, hstored⟩]
  | cons question more =>
    rw [if_neg (fun h => List.cons_ne_nil _ _ h.1), List.map_cons, evaluateEach_obtain hcoach]

/-- The first question creates an instance, the second removes it and faults, and then the first comes
again. -/
theorem evaluateCoach_inOrder_repeated :
    let coach : Coach := ⟨"a", "", "", [
      ⟨"q1", "TRUE : : createSubcoach(\"b\", \"c\");"⟩,
      ⟨"q2", "TRUE : : \x7b removeSubcoach(\"b\", \"c\"); f(); \x7d;"⟩,
      ⟨"q1", ""⟩]⟩
    let fault : LineFault :=
      ⟨"q2", 0, "TRUE :  : \x7b removeSubcoach(\"b\", \"c\"); f(); \x7d;", .unknownCommand "f"⟩
    let engine := start .standard .builtin (((∅ : Host).addCoach coach).addCoach (.ofId "b"))
    let calls := engine.evaluateEach "a" coach.questionIds
    DotFree "a" ∧ engine.coach "a" = .ok coach ∧
      (calls.refusal?, calls.reports) = (none, [⟨1, []⟩, ⟨1, [fault]⟩, ⟨1, []⟩]) ∧
      engine.evaluateCoach "a" = (.ok ⟨3, [fault]⟩, calls.engine) := by
  intro coach fault engine calls
  have hdots : DotFree "a" := by decide
  have hcoach : engine.coach "a" = .ok coach := by
    have hknown : engine.world.host.coach? "a" = some coach := by decide +kernel
    unfold Engine.coach Host.coach
    rw [hknown]
    rfl
  have hcalls : (calls.refusal?, calls.reports) = (none, [⟨1, []⟩, ⟨1, [fault]⟩, ⟨1, []⟩]) := by
    decide +kernel
  have houtcome : calls.outcome = .ok ⟨3, [fault]⟩ := Calls.outcome_of_reports hcalls
  obtain ⟨heq, -⟩ := evaluateCoach_inOrder hdots hcoach
  rw [if_neg (fun h => List.cons_ne_nil _ _ h.1)] at heq
  exact ⟨hdots, hcoach, hcalls, heq.trans (congrArg (·, calls.engine) houtcome)⟩

/-- Evaluating a coach without questions makes its context; no call does. -/
theorem evaluateCoach_unquestioned :
    let engine := start .standard .builtin ((∅ : Host).addCoach (.ofId "a"))
    let calls := engine.evaluateEach "a" (Coach.ofId "a").questionIds
    DotFree "a" ∧ engine.coach "a" = .ok (.ofId "a") ∧
      calls.engine.world.contexts.keys = [] ∧
      (engine.evaluateCoach "a").2.world.contexts.keys = ["a"] ∧
      (engine.evaluateCoach "a").2.world.contexts ≠ calls.engine.world.contexts := by
  intro engine calls
  have hcalls : calls.engine.world.contexts.keys = [] := by decide +kernel
  have hcoach : (engine.evaluateCoach "a").2.world.contexts.keys = ["a"] := by decide +kernel
  refine ⟨by decide, rfl, hcalls, hcoach, fun heq => ?_⟩
  rw [heq, hcalls] at hcoach
  cases hcoach

end Engine

end CoachScript
