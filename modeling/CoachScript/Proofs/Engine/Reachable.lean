import CoachScript.Engine
import CoachScript.Proofs.Cache.Entries
import CoachScript.Proofs.Pass.Scoring
import CoachScript.Proofs.State.Named

/-!
# Reachable engines

* `Engine.Step`: one thing that a platform can do with an engine: change the host, evaluate
  questions, run texts, change the tree of contexts.
* `Engine.Reachable`: what such steps make of an engine that has run nothing.
* `Engine.Sound`: the cache holds what reading would give, and contexts are stored under their names.
* **`Engine.Reachable.sound`**: reachable engines are sound.
-/

namespace CoachScript

/-! ### The cache -/

namespace ListingCache

/-- Every listing that is kept is the listing of its text. -/
def Coherent (cache : ListingCache) : Prop :=
  ∀ text filed, (text, filed) ∈ cache.entries → readListing text = .ok filed.lines

/-- The listing of a text, without a cache: a blank text has no lines. -/
def fresh (text : String) : Except SyntaxFault Listing :=
  if isBlankText text then .ok [] else readListing text

variable {cache : ListingCache} (h : cache.Coherent)
include h

theorem coherent_file {text : String} {filed : FiledListing}
    (hfiled : readListing text = .ok filed.lines) : (cache.file text filed).2.Coherent := by
  by_cases hmem : text ∈ cache.order
  · obtain ⟨kept, hkept⟩ := Option.isSome_iff_exists.mp (mem_order_iff.mp hmem)
    rw [file_known hkept]
    exact h
  · obtain ⟨hroom, hfile⟩ := file_new filed hmem
    rw [hfile]
    intro other listing hentry
    rw [entries_push, entries_makeRoom] at hentry
    rcases List.mem_append.mp hentry with hold | hnew
    · exact h other listing (List.mem_of_mem_drop hold)
    · rw [List.mem_singleton] at hnew
      cases hnew
      exact hfiled

theorem readListing_of_get? {text : String} {filed : FiledListing}
    (hget : cache.get? text = some filed) : readListing text = .ok filed.lines :=
  h text filed (mem_entries_iff.mpr hget)

/-- The cache gives what reading would give, and stays coherent. -/
theorem read_coherent (text : String) :
    ((cache.read text).1.map FiledListing.lines) = fresh text ∧ (cache.read text).2.Coherent := by
  unfold fresh
  by_cases hblank : isBlankText text
  · rw [read_blank hblank, if_pos hblank]
    exact ⟨rfl, h⟩
  rw [if_neg hblank]
  cases hget : cache.get? text with
  | some kept =>
    rw [read_known hblank hget]
    exact ⟨(readListing_of_get? h hget).symm, h⟩
  | none =>
    rw [read_new hblank hget]
    cases hread : readListing text with
    | error e => exact ⟨rfl, h⟩
    | ok lines =>
      have hnumber : Coherent { cache with
          misses := cache.misses + 1
          readings := cache.readings + 1 } := h
      exact ⟨rfl, coherent_file hnumber hread⟩

end ListingCache

/-! ### Evaluations, by what they make of the world -/

namespace World

variable {w : World} {scene : Scene} {keep : String}

theorem SameFrame.named {w' : World} (hframe : SameFrame w w') (h : w.contexts.Named) :
    w'.contexts.Named := by
  refine h.mono (fun key id hid => ?_) (Nat.le_of_eq hframe.size) fun id _ => (hframe.name id).symm
  rwa [hframe.stored]

theorem named_runLines (scene : Scene) (lines : Listing) (h : w.contexts.Named) :
    (runLines scene lines w).2.contexts.Named :=
  runLines_keeps (P := fun v => v.contexts.Named) scene (fun _ _ _ _ _ heffect => heffect.named)
    (fun fired v hv => (SameFrame.leave v scene.active fired).named hv) lines h

theorem named_runQuestion (scene : Scene) (keep : String) (lines : Listing)
    (h : w.contexts.Named) : (runQuestion scene keep lines w).2.contexts.Named :=
  named_runLines scene lines ((SameFrame.revert w scene keep).named h)

/-- What evaluating a question of a coach in a context makes of the world. -/
def visit (commands : CommandTable) (keep : String) (active : ContextId) (coach : Coach)
    (question : String) (w : World) : World :=
  match coach.compose? question with
  | none => w
  | some text =>
    match ListingCache.fresh text with
    | .error _ => w
    | .ok lines =>
      match w.host.answer (w.get active).name question with
      | .error _ => w
      | .ok _ => (runQuestion ⟨active, coach, question, commands⟩ keep lines w).2

theorem named_visit (commands : CommandTable) (keep : String) (active : ContextId) (coach : Coach)
    (question : String) (h : w.contexts.Named) :
    (w.visit commands keep active coach question).contexts.Named := by
  unfold visit
  cases coach.compose? question with
  | none => exact h
  | some text =>
    dsimp only
    cases ListingCache.fresh text with
    | error e => exact h
    | ok lines =>
      dsimp only
      cases w.host.answer (w.get active).name question with
      | error e => exact h
      | ok answer => exact named_runQuestion _ keep lines h

end World

namespace Engine

variable {engine engine' : Engine}

/-- The cache holds what reading would give, and contexts are stored under their names. -/
structure Sound (engine : Engine) : Prop where
  cache : engine.cache.Coherent
  named : engine.world.contexts.Named

/-- The engine with other contexts. -/
def withContexts (engine : Engine) (contexts : Contexts) : Engine :=
  { engine with world := { engine.world with contexts } }

/-- A sound engine reads a text as if there were no cache. -/
theorem listing_eq (h : engine.cache.Coherent) (text : String) :
    ∃ cache : ListingCache, cache.Coherent ∧
      engine.listing text = ((ListingCache.fresh text).mapError .unreadable, { engine with cache }) := by
  obtain ⟨hlines, hcache⟩ := ListingCache.read_coherent h text
  refine ⟨(engine.cache.read text).2, hcache, ?_⟩
  unfold listing
  rw [← hlines]
  rcases engine.cache.read text with ⟨e | filed, cache⟩ <;> rfl

theorem evaluateIn_eq (h : engine.cache.Coherent) (active : ContextId) (coach : Coach)
    (question : String) :
    ∃ cache : ListingCache, cache.Coherent ∧
      (engine.evaluateIn active coach question).2 = { engine with
        cache
        world :=
          engine.world.visit engine.commands engine.config.systemPrefix active coach question } := by
  unfold evaluateIn World.visit
  cases coach.compose? question with
  | none => exact ⟨engine.cache, h, rfl⟩
  | some text =>
    obtain ⟨cache, hcache, hlisting⟩ := listing_eq h text
    refine ⟨cache, hcache, ?_⟩
    dsimp only
    rw [hlisting]
    cases ListingCache.fresh text with
    | error e => rfl
    | ok lines =>
      dsimp only [Except.mapError]
      cases engine.world.host.answer (engine.world.get active).name question <;> rfl

theorem sound_evaluateIn (h : engine.Sound) (active : ContextId) (coach : Coach)
    (question : String) : (engine.evaluateIn active coach question).2.Sound := by
  obtain ⟨cache, hcache, heq⟩ := evaluateIn_eq h.cache active coach question
  rw [heq]
  exact ⟨hcache, World.named_visit _ _ _ _ _ h.named⟩

theorem sound_obtain (h : engine.Sound) (coachId : String) : (engine.obtain coachId).2.Sound :=
  ⟨h.cache, h.named.obtain coachId⟩

theorem sound_evaluateQuestion (h : engine.Sound) (coachId question : String) :
    (engine.evaluateQuestion coachId question).2.Sound := by
  unfold evaluateQuestion
  cases engine.coach coachId with
  | error e => exact h
  | ok coach => exact sound_evaluateIn (sound_obtain h coachId) _ coach question

theorem sound_evaluateAllIn (active : ContextId) (coach : Coach) (questions : List String) :
    ∀ {engine : Engine}, engine.Sound → (engine.evaluateAllIn active coach questions).2.Sound := by
  induction questions with
  | nil => exact fun h => h
  | cons question more ih =>
    intro engine h
    have hfirst := sound_evaluateIn h active coach question
    unfold evaluateAllIn
    rcases hrun : engine.evaluateIn active coach question with ⟨e | report, next⟩
    · rwa [hrun] at hfirst
    · rw [hrun] at hfirst
      exact ih hfirst

theorem sound_evaluateCoach (h : engine.Sound) (coachId : String) :
    (engine.evaluateCoach coachId).2.Sound := by
  unfold evaluateCoach
  cases engine.coach coachId with
  | error e => exact h
  | ok coach => exact sound_evaluateAllIn _ coach _ (sound_obtain h coachId)

theorem sound_evaluateInstance (h : engine.Sound) (key question : String) :
    (engine.evaluateInstance key question).2.Sound := by
  unfold evaluateInstance
  cases engine.world.contexts.find? key with
  | none => exact h
  | some active =>
    dsimp only
    cases engine.coach (engine.world.get active).coachId with
    | error e => exact h
    | ok coach => exact sound_evaluateIn h active coach question

section Texts

variable {P : World → Prop} (hcache : engine.cache.Coherent) (scene : Scene) (text : String)
  (h : P engine.world)
include hcache h

/-- What holds of the world, and of what passes make of it, holds after running a text. -/
theorem runText_of (hrun : ∀ lines, P (runLines scene lines engine.world).2) :
    P (engine.runText scene text).2.world := by
  obtain ⟨cache, -, hlisting⟩ := listing_eq hcache text
  unfold runText
  rw [hlisting]
  cases ListingCache.fresh text with
  | error e => exact h
  | ok lines => exact hrun lines

theorem rerunText_of (hrun : ∀ keep lines, P (runQuestion scene keep lines engine.world).2) :
    P (engine.rerunText scene text).2.world := by
  obtain ⟨cache, -, hlisting⟩ := listing_eq hcache text
  unfold rerunText
  rw [hlisting]
  cases ListingCache.fresh text with
  | error e => exact h
  | ok lines => exact hrun _ lines

end Texts

theorem sound_runText (h : engine.Sound) (scene : Scene) (text : String) :
    (engine.runText scene text).2.Sound := by
  obtain ⟨cache, hcache, hlisting⟩ := listing_eq h.cache text
  unfold runText
  rw [hlisting]
  cases ListingCache.fresh text with
  | error e => exact ⟨hcache, h.named⟩
  | ok lines => exact ⟨hcache, World.named_runLines scene lines h.named⟩

theorem sound_rerunText (h : engine.Sound) (scene : Scene) (text : String) :
    (engine.rerunText scene text).2.Sound := by
  obtain ⟨cache, hcache, hlisting⟩ := listing_eq h.cache text
  unfold rerunText
  rw [hlisting]
  cases ListingCache.fresh text with
  | error e => exact ⟨hcache, h.named⟩
  | ok lines => exact ⟨hcache, World.named_runQuestion scene _ lines h.named⟩

/-! ### Steps -/

/-- One thing that a platform can do with an engine. -/
inductive Step (engine : Engine) : Engine → Prop
  | host (host : Host) : Step engine { engine with world := { engine.world with host } }
  | question (coachId question : String) : Step engine (engine.evaluateQuestion coachId question).2
  | coach (coachId : String) : Step engine (engine.evaluateCoach coachId).2
  | subcoach (key question : String) : Step engine (engine.evaluateInstance key question).2
  | run (scene : Scene) (text : String) : Step engine (engine.runText scene text).2
  | rerun (scene : Scene) (text : String) : Step engine (engine.rerunText scene text).2
  | obtain (coachId : String) : Step engine (engine.obtain coachId).2
  | create {parent child : ContextId} {coachId instanceId argument : String} {new : Bool}
    {contexts : Contexts}
    (h : engine.world.contexts.createInstance parent coachId instanceId argument =
      .ok (child, new, contexts)) : Step engine (engine.withContexts contexts)
  | remove (parent : ContextId) (coachId instanceId : String) :
    Step engine (engine.withContexts
      (engine.world.contexts.removeInstance parent coachId instanceId).2)
  | link {child parent : ContextId} {contexts : Contexts}
    (h : engine.world.contexts.link child parent = .ok contexts) :
    Step engine (engine.withContexts contexts)
  | clear (id : ContextId) :
    Step engine (engine.withContexts (engine.world.contexts.modify id Context.clear))
  | reset (key : String) : Step engine (engine.reset key).2
  | resetAll : Step engine (engine.withContexts engine.world.contexts.resetAll)
  | forget : Step engine { engine with cache := engine.cache.clear }

/-- The engine comes of one that has run nothing. -/
inductive Reachable : Engine → Prop
  | start (config : Config) (commands : CommandTable) (host : Host) :
    Reachable (.start config commands host)
  | step {engine engine' : Engine} (h : Reachable engine) (hstep : engine.Step engine') :
    Reachable engine'

theorem sound_start (config : Config) (commands : CommandTable) (host : Host) :
    (start config commands host).Sound := ⟨nofun, .empty⟩

theorem Step.sound (hstep : engine.Step engine') (h : engine.Sound) : engine'.Sound := by
  cases hstep with
  | host host => exact ⟨h.cache, h.named⟩
  | question coachId question => exact sound_evaluateQuestion h coachId question
  | coach coachId => exact sound_evaluateCoach h coachId
  | subcoach key question => exact sound_evaluateInstance h key question
  | run scene text => exact sound_runText h scene text
  | rerun scene text => exact sound_rerunText h scene text
  | obtain coachId => exact sound_obtain h coachId
  | create hcreate => exact ⟨h.cache, h.named.createInstance hcreate⟩
  | remove parent coachId instanceId => exact ⟨h.cache, h.named.removeInstance _ _ _⟩
  | link hlink => exact ⟨h.cache, h.named.link hlink⟩
  | clear id => exact ⟨h.cache, h.named.modify id fun _ => rfl⟩
  | reset key => exact ⟨h.cache, h.named.removeTree _⟩
  | resetAll => exact ⟨h.cache, .resetAll _⟩
  | forget => exact ⟨nofun, h.named⟩

theorem reachable_pair (config : Config) (commands : CommandTable) (host : Host)
    (coachId subcoachId instanceId : String) :
    Reachable ((start config commands host).withContexts
      (.pair coachId subcoachId instanceId)) := by
  have hparent : Reachable ((start config commands host).obtain coachId).2 :=
    .step (.start config commands host) (.obtain coachId)
  unfold Contexts.pair
  dsimp only
  cases hchild : ((∅ : Contexts).obtain coachId).2.createInstance ((∅ : Contexts).obtain coachId).1
      subcoachId instanceId "" with
  | error e => exact hparent
  | ok r => exact .step hparent (.create hchild)

/-- **Reachable engines are sound.** -/
theorem Reachable.sound (h : engine.Reachable) : engine.Sound := by
  induction h with
  | start config commands host => exact sound_start config commands host
  | step _ hstep ih => exact hstep.sound ih

end Engine

end CoachScript
