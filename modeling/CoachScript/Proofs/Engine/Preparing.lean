import CoachScript.Proofs.Engine.Reevaluation
import CoachScript.Proofs.Pass.Course
import CoachScript.Proofs.State.Handles

/-!
# Evaluations that are refused

Before a question's earlier contributions are taken back, all is looked up that the pass needs: the
coach and its context, the listing of the question's text, the answer. Only that can be refused.

* `Engine.prepare`: what comes before the pass. **`Engine.respond_eq`**: a request is answered by
  preparing the pass and, unless that is refused, by running it.
* `Engine.fired_respond`: a request that is not refused leaves with the context the names that its pass has
  started.
* `ListingCache.Consulted`: what asking a cache for a text makes of it.
* **`Engine.respond_refused`**: a request that is refused has run nothing.
-/

namespace CoachScript

/-! ### Asking the cache -/

namespace ListingCache

/-- What asking a cache for a text makes of it: at most, the listing of the text is its newest entry,
and the oldest ones beyond the bound are gone. Counters go on by one question. -/
structure Consulted (text : String) (cache cache' : ListingCache) : Prop where
  capacity : cache'.capacity = cache.capacity
  entries : cache'.entries = cache.entries ∨ ∃ filed,
    cache.get? text = none ∧ readListing text = .ok filed.lines ∧
      cache'.entries = cache.entries.drop (cache.size + 1 - cache.capacity) ++ [(text, filed)]
  counters : cache.hits ≤ cache'.hits ∧ cache.misses ≤ cache'.misses ∧
    cache'.hits + cache'.misses ≤ cache.hits + cache.misses + 1

theorem consulted_read (cache : ListingCache) (text : String) :
    cache.Consulted text (cache.read text).2 := by
  by_cases hblank : isBlankText text
  · rw [read_blank hblank]
    exact ⟨rfl, .inl rfl, Nat.le_refl _, Nat.le_refl _, Nat.le_succ _⟩
  cases hget : cache.get? text with
  | some kept =>
    rw [read_known hblank hget]
    refine ⟨rfl, .inl rfl, Nat.le_succ _, Nat.le_refl _, ?_⟩
    rw [Nat.add_right_comm]
  | none =>
    have hcounters : cache.hits ≤ cache.hits ∧ cache.misses ≤ cache.misses + 1 ∧
        cache.hits + (cache.misses + 1) ≤ cache.hits + cache.misses + 1 :=
      ⟨Nat.le_refl _, Nat.le_succ _, Nat.le_refl _⟩
    rw [read_new hblank hget]
    cases hread : readListing text with
    | error e => exact ⟨rfl, .inl rfl, hcounters⟩
    | ok lines =>
      let numbered : ListingCache :=
        { cache with misses := cache.misses + 1, readings := cache.readings + 1 }
      have hfree : text ∉ numbered.order := get?_eq_none_iff.mp hget
      obtain ⟨hroom, hfile⟩ := file_new ⟨cache.readings, lines⟩ hfree
      have hcounts := sameCounts_makeRoom numbered
      have hentries := entries_push ⟨cache.readings, lines⟩ hroom
      rw [entries_makeRoom] at hentries
      show cache.Consulted text (numbered.file text ⟨cache.readings, lines⟩).2
      rw [hfile]
      refine ⟨hcounts.capacity, .inr ⟨⟨cache.readings, lines⟩, hget, hread, hentries⟩, ?_⟩
      show cache.hits ≤ numbered.makeRoom.hits ∧ cache.misses ≤ numbered.makeRoom.misses ∧
        numbered.makeRoom.hits + numbered.makeRoom.misses ≤ cache.hits + cache.misses + 1
      rw [hcounts.hits, hcounts.misses]
      exact hcounters

end ListingCache

/-! ### Preparing a pass -/

/-- A pass that is ready to run. -/
structure Prepared where
  scene : Scene
  lines : Listing

namespace Engine

variable (engine : Engine)

/-- Prepares the pass of a question of a coach in a context. -/
def prepareIn (active : ContextId) (coach : Coach) (question : String) :
    Except Refusal Prepared × Engine :=
  match coach.compose? question with
  | none => (.error (.eval (.unknownQuestion question)), engine)
  | some text =>
    match engine.listing text with
    | (.error e, engine) => (.error e, engine)
    | (.ok lines, engine) =>
      match engine.world.host.answer (engine.world.get active).name question with
      | .error e => (.error (.host e), engine)
      | .ok _ => (.ok ⟨engine.scene active coach question, lines⟩, engine)

/-- Prepares the pass that a request asks for. -/
def prepare : Request → Except Refusal Prepared × Engine
  | .question coachId question =>
    match engine.coach coachId with
    | .error e => (.error e, engine)
    | .ok coach =>
      let (active, engine) := engine.obtain coachId
      engine.prepareIn active coach question
  | .subcoach key question =>
    match engine.world.contexts.find? key with
    | none => (.error (.context (.unknownContext key)), engine)
    | some active =>
      match engine.coach (engine.world.get active).coachId with
      | .error e => (.error e, engine)
      | .ok coach => engine.prepareIn active coach question

/-- Runs a pass, if it was prepared. -/
def proceed : Except Refusal Prepared × Engine → Outcome × Engine
  | (.error e, engine) => (.error e, engine)
  | (.ok pass, engine) =>
    let (report, engine) := engine.rerunListing pass.scene pass.lines
    (.ok report, engine)

/-- The answer to a request. -/
def respond : Request → Outcome × Engine
  | .question coachId question => engine.evaluateQuestion coachId question
  | .subcoach key question => engine.evaluateInstance key question

/-- The text that a request has run, where its coach and its question are known. -/
def text? : Request → Option String
  | .question coachId question => do
    let coach ← (engine.coach coachId).toOption
    coach.compose? question
  | .subcoach key question => do
    let active ← engine.world.contexts.find? key
    let coach ← (engine.coach (engine.world.get active).coachId).toOption
    coach.compose? question

theorem evaluateIn_eq_proceed (active : ContextId) (coach : Coach) (question : String) :
    engine.evaluateIn active coach question = proceed (engine.prepareIn active coach question) := by
  unfold evaluateIn prepareIn
  cases coach.compose? question with
  | none => rfl
  | some text =>
    dsimp only
    rcases engine.listing text with ⟨e | lines, next⟩
    · rfl
    · dsimp only
      cases next.world.host.answer (next.world.get active).name question <;> rfl

/-- **A request is answered by preparing its pass and, unless that is refused, by running it.** -/
theorem respond_eq (request : Request) :
    engine.respond request = proceed (engine.prepare request) := by
  cases request with
  | question coachId question =>
    unfold respond prepare evaluateQuestion
    dsimp only
    cases engine.coach coachId with
    | error e => rfl
    | ok coach => exact evaluateIn_eq_proceed _ _ coach question
  | subcoach key question =>
    unfold respond prepare evaluateInstance
    dsimp only
    cases engine.world.contexts.find? key with
    | none => rfl
    | some active =>
      dsimp only
      cases engine.coach (engine.world.get active).coachId with
      | error e => rfl
      | ok coach => exact evaluateIn_eq_proceed _ _ coach question

end Engine

/-! ### What preparing leaves -/

/-- A coach, a context or a question is not known, a text cannot be read, or the host has failed to
look something up. -/
def Refusal.OfLookup : Refusal → Prop
  | .context (.unknownContext _) | .eval (.unknownCoach _) | .eval (.unknownQuestion _)
  | .unreadable _ | .host (.lookup _) => True
  | _ => False

namespace Engine

/-- Nothing has come of a request but, at most, the fresh context of the coach that it names, which had
none, and an entry in the cache. -/
structure Idle (request : Request) (engine engine' : Engine) : Prop where
  settings : engine'.config = engine.config ∧ engine'.commands = engine.commands
  host : engine'.world.host = engine.world.host
  log : engine'.world.log = engine.world.log
  same : ∀ id, id < engine.world.contexts.made.size → engine'.world.get id = engine.world.get id
  parents : ∀ id, engine'.world.contexts.parent? id = engine.world.contexts.parent? id
  stored : ∀ (key : String) (id : ContextId), engine.world.contexts.stored[key]? = some id →
    engine'.world.contexts.stored[key]? = some id
  contexts : engine'.world.contexts = engine.world.contexts ∨ ∃ coachId question,
    request = .question coachId question ∧ engine.world.contexts.find? coachId = none ∧
      engine'.world.contexts =
        (engine.world.contexts.add (lowercase coachId) (.ofCoach coachId)).2
  cache : engine'.cache = engine.cache ∨ ∃ text, engine.text? request = some text ∧
    engine.cache.Consulted text engine'.cache

variable {engine engine' : Engine}

/-- A request that changes no contexts. -/
theorem Idle.of_world {request : Request}
    (hsettings : engine'.config = engine.config ∧ engine'.commands = engine.commands)
    (hworld : engine'.world = engine.world)
    (hcache : engine'.cache = engine.cache ∨ ∃ text, engine.text? request = some text ∧
      engine.cache.Consulted text engine'.cache) : Idle request engine engine' := by
  refine ⟨hsettings, ?_, ?_, ?_, ?_, ?_, .inl ?_, hcache⟩
  all_goals rw [hworld]
  · exact fun _ _ => rfl
  · exact fun _ => rfl
  · exact fun _ _ => id

/-- No name of a line has started, in any context. -/
theorem Idle.fired {request : Request} (h : Idle request engine engine') (id : ContextId) :
    (engine'.world.get id).fired = (engine.world.get id).fired := by
  unfold World.get
  obtain hsame | ⟨coachId, _, -, -, hmade⟩ := h.contexts
  · rw [hsame]
  · rw [hmade, Contexts.get_add]
    split_ifs with hid
    · rw [hid, Contexts.get_size]
      rfl
    · rfl

/-! ### Look-ups -/

theorem ofLookup_guard (host : Host) {operation : HostOperation} {e : HostFault}
    (hlookup : ∀ message, operation.outage message = .lookup message)
    (h : host.guard operation = .error e) : (Refusal.host e).OfLookup := by
  unfold Host.guard at h
  cases hout : host.outages.lookup operation with
  | some message =>
    rw [hout] at h
    cases h
    rw [hlookup]
    exact trivial
  | none =>
    rw [hout] at h
    cases h

theorem ofLookup_coach (engine : Engine) (coachId : String) {e : Refusal}
    (h : engine.coach coachId = .error e) : e.OfLookup := by
  unfold Engine.coach Host.coach at h
  cases hguard : engine.world.host.guard .coach with
  | error e' =>
    rw [hguard] at h
    cases h
    exact ofLookup_guard _ (fun _ => rfl) hguard
  | ok =>
    rw [hguard] at h
    cases hcoach : engine.world.host.coach? coachId with
    | none =>
      rw [hcoach] at h
      cases h
      exact trivial
    | some coach =>
      rw [hcoach] at h
      cases h

theorem ofLookup_answer (host : Host) (instanceId question : String) {e : HostFault}
    (h : host.answer instanceId question = .error e) : (Refusal.host e).OfLookup := by
  unfold Host.answer at h
  cases hguard : host.guard .answer with
  | error e' =>
    rw [hguard] at h
    cases h
    exact ofLookup_guard _ (fun _ => rfl) hguard
  | ok =>
    rw [hguard] at h
    cases h

theorem ofLookup_listing (engine : Engine) (text : String) {e : Refusal}
    (h : (engine.listing text).1 = .error e) : e.OfLookup := by
  unfold listing at h
  dsimp only at h
  cases hread : (engine.cache.read text).1 with
  | error e' =>
    rw [hread] at h
    cases h
    exact trivial
  | ok filed =>
    rw [hread] at h
    cases h

/-! ### What is left -/

/-- Preparing a pass in a context makes no difference but to the cache, and is refused over a look-up
only. -/
theorem prepareIn_spec (engine : Engine) (active : ContextId) (coach : Coach) (question : String) :
    ∃ cache : ListingCache,
      (cache = engine.cache ∨ ∃ text, coach.compose? question = some text ∧
        engine.cache.Consulted text cache) ∧
      (engine.prepareIn active coach question).2 = { engine with cache } ∧
      ∀ e, (engine.prepareIn active coach question).1 = .error e → e.OfLookup := by
  unfold prepareIn
  cases htext : coach.compose? question with
  | none =>
    refine ⟨engine.cache, .inl rfl, rfl, fun e h => ?_⟩
    cases h
    exact trivial
  | some text =>
    refine ⟨(engine.cache.read text).2, .inr ⟨text, rfl, engine.cache.consulted_read text⟩, ?_⟩
    have hlookup (e : Refusal) := ofLookup_listing (e := e) engine text
    have hnext : (engine.listing text).2 = { engine with cache := (engine.cache.read text).2 } := rfl
    rw [← hnext]
    dsimp only
    generalize engine.listing text = read at hlookup ⊢
    obtain ⟨e | lines, next⟩ := read
    · refine ⟨rfl, fun e' h => ?_⟩
      cases h
      exact hlookup e rfl
    · dsimp only
      cases hanswer : next.world.host.answer (next.world.get active).name question with
      | error e =>
        refine ⟨rfl, fun e' h => ?_⟩
        cases h
        exact ofLookup_answer _ _ _ hanswer
      | ok answer => exact ⟨rfl, nofun⟩

/-- Obtaining a coach's context leaves the contexts that there are. -/
theorem idle_obtain (engine : Engine) (coachId question : String) :
    Idle (.question coachId question) engine (engine.obtain coachId).2 := by
  cases hfound : engine.world.contexts.find? coachId with
  | some id =>
    have hsame : engine.obtain coachId = (id, engine) := by
      unfold Engine.obtain Contexts.obtain
      rw [hfound]
    rw [hsame]
    exact .of_world ⟨rfl, rfl⟩ rfl (.inl rfl)
  | none =>
    have hmade : (engine.obtain coachId).2 = engine.withContexts
        (engine.world.contexts.add (lowercase coachId) (.ofCoach coachId)).2 := by
      unfold Engine.obtain Contexts.obtain
      rw [hfound]
      rfl
    rw [hmade]
    refine ⟨⟨rfl, rfl⟩, rfl, rfl, fun id hid => ?_, fun _ => rfl, fun key id hid => ?_,
      .inr ⟨coachId, question, rfl, hfound, rfl⟩, .inl rfl⟩
    · exact (Contexts.get_add _ _ _ id).trans (if_neg (Nat.ne_of_lt hid))
    · exact (Contexts.stored_add _ _ _ key).trans
        ((if_neg (Contexts.ne_of_stored hfound hid)).trans hid)

/-- **Preparing takes nothing back and runs nothing**, and is refused over a look-up only. -/
theorem prepare_spec (engine : Engine) (request : Request) :
    Idle request engine (engine.prepare request).2 ∧
      ∀ e, (engine.prepare request).1 = .error e → e.OfLookup := by
  have hstays : Idle request engine engine := .of_world ⟨rfl, rfl⟩ rfl (.inl rfl)
  unfold prepare
  cases request with
  | question coachId question =>
    dsimp only
    cases hcoach : engine.coach coachId with
    | error e =>
      refine ⟨hstays, fun e' h => ?_⟩
      cases h
      exact ofLookup_coach engine coachId hcoach
    | ok coach =>
      have hobtain := idle_obtain engine coachId question
      obtain ⟨cache, hcache, heq, hlookup⟩ :=
        prepareIn_spec (engine.obtain coachId).2 (engine.obtain coachId).1 coach question
      have htext : engine.text? (.question coachId question) = coach.compose? question := by
        unfold text?
        dsimp only
        rw [hcoach]
        rfl
      rw [← htext] at hcache
      dsimp only
      rw [heq]
      exact ⟨{ hobtain with cache := hcache }, hlookup⟩
  | subcoach key question =>
    dsimp only
    cases hfound : engine.world.contexts.find? key with
    | none =>
      refine ⟨hstays, fun e h => ?_⟩
      cases h
      exact trivial
    | some active =>
      dsimp only
      cases hcoach : engine.coach (engine.world.get active).coachId with
      | error e =>
        refine ⟨hstays, fun e' h => ?_⟩
        cases h
        exact ofLookup_coach engine _ hcoach
      | ok coach =>
        obtain ⟨cache, hcache, heq, hlookup⟩ := prepareIn_spec engine active coach question
        have htext : engine.text? (.subcoach key question) = coach.compose? question := by
          unfold text?
          dsimp only
          rw [hfound, Option.bind_eq_bind, Option.bind_some, hcoach]
          rfl
        rw [← htext] at hcache
        dsimp only
        rw [heq]
        exact ⟨.of_world ⟨rfl, rfl⟩ rfl hcache, hlookup⟩

theorem proceed_refused {prepared : Except Refusal Prepared × Engine} {e : Refusal}
    (h : (proceed prepared).1 = .error e) :
    prepared.1 = .error e ∧ (proceed prepared).2 = prepared.2 := by
  obtain ⟨e' | pass, engine⟩ := prepared
  · cases h
    exact ⟨rfl, rfl⟩
  · cases h

/-- A request that is not refused leaves with the context the names that its pass has started. -/
theorem fired_respond {engine engine' : Engine} {request : Request} {pass : Prepared}
    (h : engine.prepare request = (.ok pass, engine'))
    (hactive : pass.scene.active < (engine.respond request).2.world.contexts.made.size) :
    ((engine.respond request).2.world.get pass.scene.active).fired =
      passFired pass.scene pass.lines (engine'.world.revert pass.scene engine'.config.systemPrefix) := by
  rw [respond_eq, h] at hactive ⊢
  let begun := engine'.world.revert pass.scene engine'.config.systemPrefix
  let ended := (runFrom pass.scene 0 ∅ pass.lines begun).2.2
  let fired := passFired pass.scene pass.lines begun
  change pass.scene.active < (ended.leave pass.scene.active fired).contexts.made.size at hactive
  show ((ended.leave pass.scene.active fired).get pass.scene.active).fired = fired
  have hmade : pass.scene.active < ended.contexts.made.size := by
    rwa [← ended.contexts.size_modify]
  unfold World.leave World.modify World.get
  dsimp only
  rw [Contexts.get_modify, if_pos ⟨rfl, hmade⟩]

/-- **A request that is refused has run nothing**: nothing is taken back or written, the names that have
started in each context are the same, and no message was logged. It was refused over a look-up; a fresh
context of the coach that it names may have been made, and its text may have been read into the cache. -/
theorem respond_refused {engine : Engine} {request : Request} {e : Refusal}
    (h : (engine.respond request).1 = .error e) :
    e.OfLookup ∧ Idle request engine (engine.respond request).2 ∧
      ∀ id, ((engine.respond request).2.world.get id).fired = (engine.world.get id).fired := by
  obtain ⟨hidle, hlookup⟩ := prepare_spec engine request
  rw [respond_eq] at h ⊢
  obtain ⟨hrefused, hsame⟩ := proceed_refused h
  rw [← hsame] at hidle
  exact ⟨hlookup e hrefused, hidle, hidle.fired⟩

/-- The score of a question, and the name of its line, stay where its new logic cannot be read. -/
theorem respond_refused_unreadable :
    let host (logic : String) := (∅ : Host).addCoach ⟨"a", "", "", [⟨"q1", logic⟩]⟩
    let before := ((start .standard .builtin (host "TRUE : n : addScore(\"s\", 2);")).respond
      (.question "a" "q1")).2
    let engine := { before with world := { before.world with host := host "TRUE : n : addScore(" } }
    let request : Request := .question "A" "q1"
    (∃ e, (engine.respond request).1 = .error e) ∧
      engine.world.contexts.keys = ["a"] ∧ (engine.world.get 0).scores.value "s" = .ofInt 2 ∧
      ((engine.respond request).2.world.get 0).scores.value "s" = .ofInt 2 ∧
      ((engine.respond request).2.world.get 0).fired.has "n" := by
  intro host before engine request
  obtain ⟨hrefused, hkeys, hsize, hscore, hfired⟩ :
      (engine.respond request).1.toOption = none ∧ engine.world.contexts.keys = ["a"] ∧
        0 < engine.world.contexts.made.size ∧
        (engine.world.get 0).scores.value "s" = .ofInt 2 ∧
        (engine.world.get 0).fired.has "n" := by decide +kernel
  cases hresponse : (engine.respond request).1 with
  | ok report =>
    rw [hresponse] at hrefused
    cases hrefused
  | error e =>
    obtain ⟨-, hidle, hnames⟩ := respond_refused hresponse
    refine ⟨⟨e, rfl⟩, hkeys, hscore, ?_, ?_⟩
    · rw [hidle.same 0 hsize]
      exact hscore
    · rw [hnames 0]
      exact hfired

end Engine

end CoachScript
