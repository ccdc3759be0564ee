import CoachScript.Config
import CoachScript.Eval.Pass
import CoachScript.Script.ListingCache
import CoachScript.State.Snapshot

/-!
# The engine

The engine evaluates questions: it asks the host for the coach, puts the question's logic together,
reads it (or finds it in the cache) and runs it in the coach's context.

* `Refusal`: why an evaluation did not begin; `PassReport` tells of one that did.
* `Engine.evaluateQuestion`, `evaluateCoach`, `evaluateInstance`: a question of a coach, all its
  questions in order, and a question of a subcoach's instance.
* `Engine.snapshot`, `summary`, `reset`: looking at a stored context, and removing it.
-/

namespace CoachScript

/-- Why nothing was run. -/
inductive Refusal where
  | unreadable (e : SyntaxFault)
  | eval (e : Fault)
  | context (e : ContextFault)
  | host (e : HostFault)
  | settings (problem : String)
deriving DecidableEq, Repr

/-- The wording of a refusal. -/
def Refusal.message : Refusal → String
  | .unreadable e => String.join ["Syntax error: ", e.message]
  | .eval e => String.join ["Eval error: ", e.message]
  | .context e => String.join ["Context error: ", e.message]
  | .host e => String.join ["Host error: ", e.message]
  | .settings problem => String.join ["Config error: ", problem]

/-- Runs scripts for a host. -/
structure Engine where
  config : Config
  commands : CommandTable
  cache : ListingCache
  world : World

/-- What came of an evaluation. -/
abbrev Outcome := Except Refusal PassReport

/-- What went wrong in an evaluation, in words. -/
def Outcome.complaint? : Outcome → Option String
  | .error e => some e.message
  | .ok report => if report.faults.isEmpty then none else some report.message

namespace Engine

/-- An engine that has run nothing. -/
def start (config : Config) (commands : CommandTable) (host : Host) : Engine :=
  ⟨config, commands, .empty config.cacheCapacity, ⟨∅, host, #[]⟩⟩

/-- The scene for a question in a context. -/
def scene (engine : Engine) (active : ContextId) (coach : Coach) (question : String) : Scene :=
  ⟨active, coach, question, engine.commands⟩

/-- The listing of a text, by way of the cache. -/
def listing (engine : Engine) (text : String) : Except Refusal Listing × Engine :=
  let (read, cache) := engine.cache.read text
  (match read with
    | .ok filed => .ok filed.lines
    | .error e => .error (.unreadable e), { engine with cache })

/-- The coach of an id. -/
def coach (engine : Engine) (coachId : String) : Except Refusal Coach :=
  match engine.world.host.coach coachId with
  | .error e => .error (.host e)
  | .ok none => .error (.eval (.unknownCoach coachId))
  | .ok (some coach) => .ok coach

/-- Runs a listing in a scene and keeps the world that it leaves. -/
def runListing (engine : Engine) (scene : Scene) (lines : Listing) : PassReport × Engine :=
  let (report, world) := runLines scene lines engine.world
  (report, { engine with world })

/-- Evaluates a scene's question anew with a listing. -/
def rerunListing (engine : Engine) (scene : Scene) (lines : Listing) : PassReport × Engine :=
  let (report, world) := runQuestion scene engine.config.systemPrefix lines engine.world
  (report, { engine with world })

/-- Runs a text in a scene. -/
def runText (engine : Engine) (scene : Scene) (text : String) : Outcome × Engine :=
  match engine.listing text with
  | (.error e, engine) => (.error e, engine)
  | (.ok lines, engine) =>
    let (report, engine) := engine.runListing scene lines
    (.ok report, engine)

/-- Evaluates a scene's question anew with a text. -/
def rerunText (engine : Engine) (scene : Scene) (text : String) : Outcome × Engine :=
  match engine.listing text with
  | (.error e, engine) => (.error e, engine)
  | (.ok lines, engine) =>
    let (report, engine) := engine.rerunListing scene lines
    (.ok report, engine)

/-- Evaluates a question of a coach in a context. -/
def evaluateIn (engine : Engine) (active : ContextId) (coach : Coach) (question : String) :
    Outcome × Engine :=
  match coach.compose? question with
  | none => (.error (.eval (.unknownQuestion question)), engine)
  | some text =>
    match engine.listing text with
    | (.error e, engine) => (.error e, engine)
    | (.ok lines, engine) =>
      match engine.world.host.answer (engine.world.get active).name question with
      | .error e => (.error (.host e), engine)
      | .ok _ =>
        let (report, engine) := engine.rerunListing (engine.scene active coach question) lines
        (.ok report, engine)

/-- The context of a coach, made if there is none. -/
def obtain (engine : Engine) (coachId : String) : ContextId × Engine :=
  let (id, contexts) := engine.world.contexts.obtain coachId
  (id, { engine with world := { engine.world with contexts } })

/-- Evaluates a question of a coach. -/
def evaluateQuestion (engine : Engine) (coachId question : String) : Outcome × Engine :=
  match engine.coach coachId with
  | .error e => (.error e, engine)
  | .ok coach =>
    let (active, engine) := engine.obtain coachId
    engine.evaluateIn active coach question

/-- Evaluates questions in turn; the first that is refused ends the run, and the reports on those
before it are dropped. -/
def evaluateAllIn (engine : Engine) (active : ContextId) (coach : Coach) :
    List String → Outcome × Engine
  | [] => (.ok .empty, engine)
  | question :: more =>
    match engine.evaluateIn active coach question with
    | (.error e, engine) => (.error e, engine)
    | (.ok report, engine) =>
      let (outcome, engine) := engine.evaluateAllIn active coach more
      (outcome.map report.append, engine)

/-- Evaluates every question of a coach, in order. -/
def evaluateCoach (engine : Engine) (coachId : String) : Outcome × Engine :=
  match engine.coach coachId with
  | .error e => (.error e, engine)
  | .ok coach =>
    let (active, engine) := engine.obtain coachId
    engine.evaluateAllIn active coach coach.questionIds

/-- Evaluates a question of the instance of a subcoach. -/
def evaluateInstance (engine : Engine) (key question : String) : Outcome × Engine :=
  match engine.world.contexts.find? key with
  | none => (.error (.context (.unknownContext key)), engine)
  | some active =>
    match engine.coach (engine.world.get active).coachId with
    | .error e => (.error e, engine)
    | .ok coach => engine.evaluateIn active coach question

/-- What a stored context shows of itself. -/
def snapshot (engine : Engine) (key : String) : Except Refusal Json :=
  match engine.world.contexts.find? key with
  | none => .error (.context (.unknownContext key))
  | some id => .ok (engine.world.contexts.snapshot id)

/-- All recommendations that can be seen from a stored context. -/
def summary (engine : Engine) (key : String) : Except Refusal (List Recommendation) :=
  (engine.world.contexts.summary key).mapError .context

/-- Removes a stored context and those below it; says whether it was there. -/
def reset (engine : Engine) (key : String) : Bool × Engine :=
  let (removed, contexts) := engine.world.contexts.reset key
  (removed, { engine with world := { engine.world with contexts } })

end Engine

end CoachScript
