import CoachScript.Proofs.Engine.Reachable

/-!
# The cache cannot be observed

* `Engine.Demand`, `Engine.meet`: one thing that is asked of an engine, and what comes of it.
* `Engine.transcript`: the replies to demands, one after another, each with the world that it leaves.
* `Engine.Agree`: engines that differ in nothing but their caches, which hold what reading would give.
* **`Engine.transcript_capacity`**: how many listings an engine keeps makes no difference to any
  reply, nor to the contexts, the host or the log.
-/

namespace CoachScript

namespace Engine

/-! ### Demands -/

/-- One thing that is asked of an engine, or done to its host meanwhile. -/
inductive Demand where
  | question (coachId question : String)
  | coach (coachId : String)
  | subcoach (key question : String)
  | run (scene : Scene) (text : String)
  | rerun (scene : Scene) (text : String)
  | reset (key : String)
  /-- The host has other answers or coaches from here on. -/
  | furnish (change : Host → Host)

/-- What a demand is answered with. -/
inductive Reply where
  | evaluated (outcome : Outcome)
  | removed (known : Bool)
  | furnished

/-- Meets a demand. -/
def meet (engine : Engine) : Demand → Reply × Engine
  | .question coachId question => (engine.evaluateQuestion coachId question).map .evaluated id
  | .coach coachId => (engine.evaluateCoach coachId).map .evaluated id
  | .subcoach key question => (engine.evaluateInstance key question).map .evaluated id
  | .run scene text => (engine.runText scene text).map .evaluated id
  | .rerun scene text => (engine.rerunText scene text).map .evaluated id
  | .reset key => (engine.reset key).map .removed id
  | .furnish change =>
    (.furnished, { engine with world := { engine.world with host := change engine.world.host } })

/-- The replies to demands, one after another, each with the world that it leaves: the contexts with
all that they show, the host and the log. -/
def transcript (engine : Engine) : List Demand → List (Reply × World)
  | [] => []
  | demand :: more =>
    let (reply, engine) := engine.meet demand
    (reply, engine.world) :: engine.transcript more

/-! ### Engines that agree -/

/-- The engines differ in nothing but their caches, which hold what reading would give. -/
structure Agree (engine engine' : Engine) : Prop where
  systemPrefix : engine.config.systemPrefix = engine'.config.systemPrefix
  commands : engine.commands = engine'.commands
  world : engine.world = engine'.world
  cache : engine.cache.Coherent
  cache' : engine'.cache.Coherent

/-- One answer, from engines that agree after it. -/
def Concur {α : Type} (x y : α × Engine) : Prop := x.1 = y.1 ∧ Agree x.2 y.2

theorem Concur.map {α β : Type} {x y : α × Engine} (h : Concur x y) (f : α → β) :
    Concur (x.map f id) (y.map f id) := ⟨congrArg f h.1, h.2⟩

namespace Agree

variable {engine engine' : Engine}

theorem coach_eq (h : Agree engine engine') (coachId : String) :
    engine.coach coachId = engine'.coach coachId := by
  unfold Engine.coach
  rw [h.world]

theorem withWorld (h : Agree engine engine') (world : World) :
    Agree { engine with world } { engine' with world } :=
  ⟨h.systemPrefix, h.commands, rfl, h.cache, h.cache'⟩

/-- Whether a listing is kept or read anew, it is the same. -/
theorem listing (h : Agree engine engine') (text : String) :
    Concur (engine.listing text) (engine'.listing text) := by
  obtain ⟨cache, hcache, hlisting⟩ := listing_eq h.cache text
  obtain ⟨cache', hcache', hlisting'⟩ := listing_eq h.cache' text
  rw [hlisting, hlisting']
  exact ⟨rfl, h.systemPrefix, h.commands, h.world, hcache, hcache'⟩

theorem runListing (h : Agree engine engine') (scene : Scene) (lines : Listing) :
    Concur (engine.runListing scene lines) (engine'.runListing scene lines) := by
  unfold Engine.runListing
  rw [h.world]
  exact ⟨rfl, h.withWorld _⟩

theorem rerunListing (h : Agree engine engine') (scene : Scene) (lines : Listing) :
    Concur (engine.rerunListing scene lines) (engine'.rerunListing scene lines) := by
  unfold Engine.rerunListing
  rw [h.world, h.systemPrefix]
  exact ⟨rfl, h.withWorld _⟩

theorem obtain (h : Agree engine engine') (coachId : String) :
    Concur (engine.obtain coachId) (engine'.obtain coachId) := by
  unfold Engine.obtain
  rw [h.world]
  exact ⟨rfl, h.withWorld _⟩

theorem reset (h : Agree engine engine') (key : String) :
    Concur (engine.reset key) (engine'.reset key) := by
  unfold Engine.reset
  rw [h.world]
  exact ⟨rfl, h.withWorld _⟩

/-- What is done with a listing once it is there. -/
theorem withListing (h : Agree engine engine') (text : String)
    {next next' : Engine → Listing → Outcome × Engine}
    (hnext : ∀ {e e' : Engine}, Agree e e' → ∀ lines, Concur (next e lines) (next' e' lines)) :
    Concur
      (match engine.listing text with
        | (.error e, engine) => (.error e, engine)
        | (.ok lines, engine) => next engine lines)
      (match engine'.listing text with
        | (.error e, engine) => (.error e, engine)
        | (.ok lines, engine) => next' engine lines) := by
  have hread := h.listing text
  generalize engine.listing text = x at hread ⊢
  generalize engine'.listing text = y at hread ⊢
  obtain ⟨r, e⟩ := x
  obtain ⟨r', e'⟩ := y
  obtain ⟨rfl, hagree⟩ := hread
  cases r with
  | error fault => exact ⟨rfl, hagree⟩
  | ok lines => exact hnext hagree lines

theorem evaluateIn (h : Agree engine engine') (active : ContextId) (coach : Coach)
    (question : String) :
    Concur (engine.evaluateIn active coach question)
      (engine'.evaluateIn active coach question) := by
  unfold Engine.evaluateIn
  cases coach.compose? question with
  | none => exact ⟨rfl, h⟩
  | some text =>
    refine h.withListing text fun {e e'} h lines => ?_
    rw [h.world]
    cases e'.world.host.answer (e'.world.get active).name question with
    | error fault => exact ⟨rfl, h⟩
    | ok _ =>
      unfold Engine.scene
      rw [h.commands]
      exact (h.rerunListing _ lines).map Except.ok

theorem evaluateQuestion (h : Agree engine engine') (coachId question : String) :
    Concur (engine.evaluateQuestion coachId question)
      (engine'.evaluateQuestion coachId question) := by
  unfold Engine.evaluateQuestion
  rw [h.coach_eq]
  cases engine'.coach coachId with
  | error e => exact ⟨rfl, h⟩
  | ok coach =>
    obtain ⟨hactive, hnext⟩ := h.obtain coachId
    dsimp only
    rw [hactive]
    exact hnext.evaluateIn _ coach question

/-- The questions of a coach, by induction on those that are left. -/
theorem evaluateAllIn (active : ContextId) (coach : Coach) (questions : List String) :
    ∀ {engine engine' : Engine}, Agree engine engine' →
      Concur (engine.evaluateAllIn active coach questions)
        (engine'.evaluateAllIn active coach questions) := by
  induction questions with
  | nil => exact fun h => ⟨rfl, h⟩
  | cons question more ih =>
    intro engine engine' h
    have hfirst := h.evaluateIn active coach question
    unfold Engine.evaluateAllIn
    generalize engine.evaluateIn active coach question = x at hfirst ⊢
    generalize engine'.evaluateIn active coach question = y at hfirst ⊢
    obtain ⟨r, e⟩ := x
    obtain ⟨r', e'⟩ := y
    obtain ⟨rfl, hnext⟩ := hfirst
    cases r with
    | error fault => exact ⟨rfl, hnext⟩
    | ok report => exact (ih hnext).map fun outcome => outcome.map report.append

theorem evaluateCoach (h : Agree engine engine') (coachId : String) :
    Concur (engine.evaluateCoach coachId) (engine'.evaluateCoach coachId) := by
  unfold Engine.evaluateCoach
  rw [h.coach_eq]
  cases engine'.coach coachId with
  | error e => exact ⟨rfl, h⟩
  | ok coach =>
    obtain ⟨hactive, hnext⟩ := h.obtain coachId
    dsimp only
    rw [hactive]
    exact evaluateAllIn _ coach _ hnext

theorem evaluateInstance (h : Agree engine engine') (key question : String) :
    Concur (engine.evaluateInstance key question) (engine'.evaluateInstance key question) := by
  unfold Engine.evaluateInstance
  simp only [h.world, h.coach_eq]
  cases engine'.world.contexts.find? key with
  | none => exact ⟨rfl, h⟩
  | some active =>
    dsimp only
    cases engine'.coach (engine'.world.get active).coachId with
    | error e => exact ⟨rfl, h⟩
    | ok coach => exact h.evaluateIn active coach question

theorem runText (h : Agree engine engine') (scene : Scene) (text : String) :
    Concur (engine.runText scene text) (engine'.runText scene text) :=
  h.withListing text fun h lines => (h.runListing scene lines).map Except.ok

theorem rerunText (h : Agree engine engine') (scene : Scene) (text : String) :
    Concur (engine.rerunText scene text) (engine'.rerunText scene text) :=
  h.withListing text fun h lines => (h.rerunListing scene lines).map Except.ok

/-- **Engines that agree meet a demand with one reply, and agree again.** -/
theorem meet (h : Agree engine engine') (demand : Demand) :
    Concur (engine.meet demand) (engine'.meet demand) := by
  cases demand with
  | question coachId question => exact (h.evaluateQuestion coachId question).map Reply.evaluated
  | coach coachId => exact (h.evaluateCoach coachId).map Reply.evaluated
  | subcoach key question => exact (h.evaluateInstance key question).map Reply.evaluated
  | run scene text => exact (h.runText scene text).map Reply.evaluated
  | rerun scene text => exact (h.rerunText scene text).map Reply.evaluated
  | reset key => exact (h.reset key).map Reply.removed
  | furnish change =>
    unfold Engine.meet
    dsimp only
    rw [h.world]
    exact ⟨rfl, h.withWorld _⟩

theorem transcript_eq (h : Agree engine engine') (demands : List Demand) :
    engine.transcript demands = engine'.transcript demands := by
  induction demands generalizing engine engine' with
  | nil => rfl
  | cons demand more ih =>
    obtain ⟨hreply, hnext⟩ := h.meet demand
    unfold transcript
    dsimp only
    rw [hreply, hnext.world, ih hnext]

end Agree

/-- **How many listings an engine keeps cannot be observed**: from one start, whatever is asked in
turn, all replies are the same, and so are the contexts, the host and the log after each. -/
theorem transcript_capacity (config : Config) (capacity : Nat) (commands : CommandTable)
    (host : Host) (demands : List Demand) :
    (start { config with cacheCapacity := capacity } commands host).transcript demands =
      (start config commands host).transcript demands := by
  have hagree : Agree (start { config with cacheCapacity := capacity } commands host)
      (start config commands host) := ⟨rfl, rfl, rfl, nofun, nofun⟩
  exact hagree.transcript_eq demands

end Engine

end CoachScript
