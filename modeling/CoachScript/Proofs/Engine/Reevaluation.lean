import CoachScript.Proofs.Decimal
import CoachScript.Proofs.Engine.Reachable
import Mathlib.Data.List.Induction

/-!
# The order and the number of evaluations

* `foldl_replace_perm`: replacing owned entries again and again, in any order, leaves the same
  entries.
* `World.Owns`: the contributions that a question of a stored context owns; **no two own the same**
  (`World.Owns.unique`).
* `Request`, `World.serve`: an evaluation that is asked for, and what it makes of the world.
* **`value_serveAll`**: the totals after scoring scripts depend only on which questions were
  evaluated in which contexts.
-/

namespace CoachScript

/-! ### Replacing owned entries -/

section Replace

variable {ι α : Type} [DecidableEq α] {takes : ι → α → Bool} {adds : ι → List α}

/-- The entries after an owner has taken back its own and added what it adds. -/
def replaceOwned (takes : ι → α → Bool) (adds : ι → List α) (entries : List α) (p : ι) : List α :=
  entries.filter (!takes p ·) ++ adds p

theorem count_replaceOwned (hadds : ∀ p, ∀ a ∈ adds p, takes p a) (entries : List α) (p : ι) (a : α) :
    (replaceOwned takes adds entries p).count a =
      if takes p a then (adds p).count a else entries.count a := by
  unfold replaceOwned
  rw [List.count_append]
  by_cases h : takes p a
  · have hgone : a ∉ entries.filter (!takes p ·) := by
      intro hmem
      have := (List.mem_filter.mp hmem).2
      rw [h] at this
      cases this
    rw [if_pos h, List.count_eq_zero_of_not_mem hgone, Nat.zero_add]
  · have hnone : a ∉ adds p := fun hmem => h (hadds p a hmem)
    have hkept : (!takes p a) = true := by rw [Bool.eq_false_iff.mpr h]; rfl
    rw [if_neg h, List.count_eq_zero_of_not_mem hnone, Nat.add_zero]
    exact List.count_filter hkept

variable (hadds : ∀ p, ∀ a ∈ adds p, takes p a)
  (hunique : ∀ p q a, takes p a → takes q a → p = q)
include hadds hunique

/-- What is owned by one that took its turn is there as often as it adds it. -/
theorem count_foldl_of_mem {p : ι} {a : α} (hp : takes p a) (ps : List ι) (entries : List α)
    (hmem : p ∈ ps) : (ps.foldl (replaceOwned takes adds) entries).count a = (adds p).count a := by
  induction ps using List.reverseRecOn with
  | nil => cases hmem
  | append_singleton ps q ih =>
    rw [List.foldl_append, List.foldl_cons, List.foldl_nil, count_replaceOwned hadds]
    by_cases hq : takes q a
    · rw [if_pos hq, hunique p q a hp hq]
    · rw [if_neg hq]
      refine ih ((List.mem_append.mp hmem).resolve_right fun h => hq ?_)
      rwa [← List.mem_singleton.mp h]

omit hunique in
/-- What none of them owns stays. -/
theorem count_foldl_of_not_mem {a : α} (ps : List ι) (entries : List α)
    (hnone : ∀ p ∈ ps, ¬ takes p a) :
    (ps.foldl (replaceOwned takes adds) entries).count a = entries.count a := by
  induction ps using List.reverseRecOn with
  | nil => rfl
  | append_singleton ps q ih =>
    rw [List.foldl_append, List.foldl_cons, List.foldl_nil, count_replaceOwned hadds,
      if_neg (hnone q (List.mem_append_right _ List.mem_cons_self))]
    exact ih fun p hp => hnone p (List.mem_append_left _ hp)

/-- **Neither the order nor the number of turns matters**, only who took one. -/
theorem foldl_replace_perm {ps qs : List ι} (hmem : ∀ p, p ∈ ps ↔ p ∈ qs) (entries : List α) :
    (ps.foldl (replaceOwned takes adds) entries).Perm
      (qs.foldl (replaceOwned takes adds) entries) := by
  rw [List.perm_iff_count]
  intro a
  by_cases howned : ∃ p ∈ ps, takes p a
  · obtain ⟨p, hp, ha⟩ := howned
    rw [count_foldl_of_mem hadds hunique ha ps entries hp,
      count_foldl_of_mem hadds hunique ha qs entries ((hmem p).mp hp)]
  · have hps : ∀ p ∈ ps, ¬ takes p a := fun p hp ha => howned ⟨p, hp, ha⟩
    have hqs : ∀ p ∈ qs, ¬ takes p a := fun p hp => hps p ((hmem p).mpr hp)
    rw [count_foldl_of_not_mem hadds ps entries hps, count_foldl_of_not_mem hadds qs entries hqs]

end Replace

/-! ### Owned contributions -/

/-- The text before the last slash and the text behind it are known from the whole. -/
theorem qualifiedSource_injective {name name' question question' : String}
    (h : qualifiedSource name question = qualifiedSource name' question')
    (hq : '/' ∉ question.toList) (hq' : '/' ∉ question'.toList) :
    name = name' ∧ question = question' := by
  have key : ∀ xs ys us vs : List Char, xs ++ '/' :: us = ys ++ '/' :: vs → '/' ∉ us → '/' ∉ vs →
      xs = ys ∧ us = vs := by
    intro xs
    induction xs with
    | nil =>
      intro ys us vs h hu hv
      cases ys with
      | nil => exact ⟨rfl, (List.cons.inj h).2⟩
      | cons y ys =>
        have hus : us = ys ++ '/' :: vs := (List.cons.inj h).2
        exact absurd (hus ▸ List.mem_append_right _ List.mem_cons_self) hu
    | cons x xs ih =>
      intro ys us vs h hu hv
      cases ys with
      | nil =>
        have hvs : xs ++ '/' :: us = vs := (List.cons.inj h).2
        exact absurd (hvs ▸ List.mem_append_right _ List.mem_cons_self) hv
      | cons y ys =>
        obtain ⟨hxy, hrest⟩ := List.cons.inj h
        obtain ⟨hxs, hus⟩ := ih ys us vs hrest hu hv
        exact ⟨by rw [hxy, hxs], hus⟩
  have hchars := congrArg String.toList h
  unfold qualifiedSource at hchars
  simp only [String.toList_append, List.append_assoc] at hchars
  obtain ⟨hname, hquestion⟩ := key _ _ _ _ hchars hq hq'
  exact ⟨String.toList_inj.mp hname, String.toList_inj.mp hquestion⟩

theorem not_mem_of_qualifiedSource {name question question' : String}
    (h : qualifiedSource name question = question') : '/' ∈ question'.toList := by
  rw [← h]
  unfold qualifiedSource
  simp only [String.toList_append, List.mem_append]
  exact .inl (.inr List.mem_cons_self)

/-- A question of the context stored under a key, without a slash in its id, owns the contributions
of a source to the scores of a context. -/
def World.Owns (w : World) (pair : String × String) (id : ContextId) (source : String) : Prop :=
  '/' ∉ pair.2.toList ∧ ∃ active, w.contexts.stored[pair.1]? = some active ∧
    (id = active ∧ source = pair.2 ∨
      id ∈ w.contexts.ancestors active ∧ source = qualifiedSource pair.1 pair.2)

/-- **No two questions own the same contributions.** -/
theorem World.Owns.unique {w : World} (hnamed : w.contexts.Named) {p q : String × String}
    {id : ContextId} {source : String} (hp : w.Owns p id source) (hq : w.Owns q id source) :
    p = q := by
  obtain ⟨hplain, active, hactive, hp⟩ := hp
  obtain ⟨hplain', active', hactive', hq⟩ := hq
  rcases hp with ⟨rfl, rfl⟩ | ⟨-, rfl⟩
  · rcases hq with ⟨rfl, hsource⟩ | ⟨-, hsource⟩
    · exact Prod.ext (hnamed.key_unique hactive hactive') hsource
    · exact absurd (not_mem_of_qualifiedSource hsource.symm) hplain
  · rcases hq with ⟨-, hsource⟩ | ⟨-, hsource⟩
    · exact absurd (not_mem_of_qualifiedSource hsource) hplain'
    · obtain ⟨hkey, hquestion⟩ := qualifiedSource_injective hsource hplain hplain'
      exact Prod.ext hkey hquestion

/-! ### Hosts whose scripts only score -/

/-- The questions of the coach have ids without a slash. -/
def Coach.plain (coach : Coach) : Bool := coach.questions.all fun q => !q.id.toList.contains '/'

/-- Every readable script of the coach's questions only scores. -/
def Coach.scoring (commands : CommandTable) (coach : Coach) : Bool :=
  coach.questions.all fun q =>
    match (coach.compose? q.id).map ListingCache.fresh with
    | some (.ok lines) => lines.all (·.scoring commands)
    | _ => true

/-- The host's coaches have plain question ids and scripts that only score. -/
def Host.scoring (commands : CommandTable) (host : Host) : Bool :=
  host.coaches.all fun entry => entry.2.plain && entry.2.scoring commands

theorem Coach.question_of_compose? {coach : Coach} {question text : String}
    (h : coach.compose? question = some text) : ∃ q ∈ coach.questions, q.id = question := by
  unfold compose? at h
  cases hfind : coach.question? question with
  | none => rw [hfind] at h; cases h
  | some q =>
    unfold question? at hfind
    have hid := List.find?_some hfind
    exact ⟨q, List.mem_of_find?_eq_some hfind, beq_iff_eq.mp hid⟩

theorem Host.mem_of_coach {host : Host} {coachId : String} {coach : Coach}
    (h : host.coach coachId = .ok (some coach)) : ∃ entry ∈ host.coaches, entry.2 = coach := by
  unfold Host.coach Host.coach? at h
  cases hguard : host.guard .coach with
  | error e => rw [hguard] at h; cases h
  | ok _ =>
    rw [hguard] at h
    have hlookup : host.coaches.lookup (lowercase coachId) = some coach := Except.ok.inj h
    obtain ⟨before, after, hcoaches, -⟩ := List.lookup_eq_some_iff.mp hlookup
    refine ⟨(lowercase coachId, coach), ?_, rfl⟩
    rw [hcoaches]
    exact List.mem_append_right _ List.mem_cons_self

/-- A question that is found has a plain id, and its script only scores. -/
theorem Host.scoring_of_coach {host : Host} {commands : CommandTable} (h : host.scoring commands)
    {coachId question text : String} {coach : Coach} {lines : Listing}
    (hcoach : host.coach coachId = .ok (some coach)) (htext : coach.compose? question = some text)
    (hlines : ListingCache.fresh text = .ok lines) :
    '/' ∉ question.toList ∧ ∀ line ∈ lines, line.scoring commands := by
  obtain ⟨entry, hentry, rfl⟩ := mem_of_coach hcoach
  obtain ⟨q, hq, rfl⟩ := Coach.question_of_compose? htext
  obtain ⟨hplain, hscoring⟩ := (Bool.and_eq_true _ _).mp (List.all_eq_true.mp h entry hentry)
  have hid := List.all_eq_true.mp hplain q hq
  have hscript := List.all_eq_true.mp hscoring q hq
  rw [htext, Option.map_some, hlines] at hscript
  refine ⟨fun hslash => ?_, List.all_eq_true.mp hscript⟩
  rw [List.contains_iff_mem.mpr hslash] at hid
  cases hid

/-! ### Requests -/

/-- An evaluation that is asked for. -/
inductive Request where
  | question (coachId question : String)
  | subcoach (key question : String)
deriving DecidableEq

namespace Request

/-- The context, by its key, and the question. -/
def pair : Request → String × String
  | .question coachId q => (lowercase coachId, q)
  | .subcoach key q => (lowercase key, q)

/-- The request names a stored context, and if it names a coach, a context of that coach. -/
def addresses (w : World) : Request → Bool
  | .question coachId _ => (w.contexts.find? coachId).any fun active =>
      lowercase (w.get active).coachId == lowercase coachId
  | .subcoach key _ => w.contexts.contains key

end Request

/-- Serves a request. -/
def Engine.serve (engine : Engine) : Request → Engine
  | .question coachId question => (engine.evaluateQuestion coachId question).2
  | .subcoach key question => (engine.evaluateInstance key question).2

/-- Serves requests in turn. -/
def Engine.serveAll (engine : Engine) (rs : List Request) : Engine := rs.foldl Engine.serve engine

namespace World

variable (commands : CommandTable) (keep : String) (w : World) (pair : String × String)

/-- The context that is stored under the key, its coach, and the question's listing, unless the
evaluation is refused. -/
def job? : Option (ContextId × Coach × Listing) := do
  let active ← w.contexts.stored[pair.1]?
  let coach ← (w.host.coach (w.get active).coachId).toOption.join
  let text ← coach.compose? pair.2
  let lines ← (ListingCache.fresh text).toOption
  let _ ← (w.host.answer (w.get active).name pair.2).toOption
  pure (active, coach, lines)

/-- What evaluating a question in the context stored under a key makes of the world. -/
def serve : World :=
  match w.job? pair with
  | none => w
  | some (active, coach, lines) => (runQuestion ⟨active, coach, pair.2, commands⟩ keep lines w).2

variable {w pair}

theorem serve_of_visit {active : ContextId} {coach : Coach}
    (hactive : w.contexts.stored[pair.1]? = some active)
    (hcoach : w.host.coach (w.get active).coachId = .ok (some coach)) :
    w.visit commands keep active coach pair.2 = w.serve commands keep pair := by
  unfold serve job? visit
  rw [hactive]
  simp only [Option.bind_eq_bind, Option.bind_some, hcoach, Except.toOption, Option.join_some]
  cases coach.compose? pair.2 with
  | none => rfl
  | some text =>
    dsimp only [Option.bind_some]
    cases ListingCache.fresh text with
    | error e => rfl
    | ok lines => cases w.host.answer (w.get active).name pair.2 <;> rfl

theorem serve_of_unknown {active : ContextId}
    (hactive : w.contexts.stored[pair.1]? = some active)
    (hcoach : (w.host.coach (w.get active).coachId).toOption.join = none) :
    w.serve commands keep pair = w := by
  unfold serve job?
  rw [hactive]
  simp only [Option.bind_eq_bind, Option.bind_some, hcoach, Option.bind_none]

end World

theorem Host.coach_congr (host : Host) {coachId coachId' : String}
    (h : lowercase coachId = lowercase coachId') : host.coach coachId = host.coach coachId' := by
  unfold Host.coach Host.coach?
  rw [h]

theorem Engine.evaluateIn_serve {engine : Engine} (h : engine.Sound) {pair : String × String}
    {active : ContextId} {coachId : String}
    (hactive : engine.world.contexts.stored[pair.1]? = some active)
    (hcoach : lowercase (engine.world.get active).coachId = lowercase coachId) :
    ∃ cache : ListingCache, cache.Coherent ∧
      (match engine.coach coachId with
        | .error e => ((.error e : Outcome), engine)
        | .ok coach => engine.evaluateIn active coach pair.2).2 = { engine with
          cache
          world := engine.world.serve engine.commands engine.config.systemPrefix pair } := by
  have hunknown := World.serve_of_unknown engine.commands engine.config.systemPrefix hactive
  unfold Engine.coach
  rw [engine.world.host.coach_congr hcoach.symm]
  rcases hfound : engine.world.host.coach (engine.world.get active).coachId with e | _ | coach
  · rw [hunknown (by rw [hfound]; rfl)]
    exact ⟨engine.cache, h.cache, rfl⟩
  · rw [hunknown (by rw [hfound]; rfl)]
    exact ⟨engine.cache, h.cache, rfl⟩
  · rw [← World.serve_of_visit engine.commands engine.config.systemPrefix hactive hfound]
    exact Engine.evaluateIn_eq h.cache active coach pair.2

/-- A served request is an evaluation in the context it names. -/
theorem Engine.serve_eq {engine : Engine} (h : engine.Sound) {r : Request}
    (hr : r.addresses engine.world) :
    ∃ cache : ListingCache, cache.Coherent ∧ engine.serve r = { engine with
      cache
      world := engine.world.serve engine.commands engine.config.systemPrefix r.pair } := by
  cases r with
  | question coachId question =>
    obtain ⟨active, hfind, hcoach⟩ := (Option.any_eq_true _ _).mp hr
    have hobtain : engine.obtain coachId = (active, engine) := by
      unfold Engine.obtain Contexts.obtain
      rw [hfind]
    unfold Engine.serve Engine.evaluateQuestion
    dsimp only
    rw [hobtain]
    have hactive : engine.world.contexts.stored[(lowercase coachId, question).1]? = some active :=
      hfind
    exact Engine.evaluateIn_serve h hactive (beq_iff_eq.mp hcoach)
  | subcoach key question =>
    obtain ⟨active, hfind⟩ := Option.isSome_iff_exists.mp hr
    unfold Engine.serve Engine.evaluateInstance
    dsimp only
    rw [hfind]
    have hactive : engine.world.contexts.stored[(lowercase key, question).1]? = some active := hfind
    exact Engine.evaluateIn_serve h hactive rfl

/-! ### Frames -/

theorem World.SameFrame.addresses {w w' : World} (h : World.SameFrame w w') (r : Request) :
    r.addresses w = r.addresses w' := by
  unfold Request.addresses Contexts.contains Contexts.find?
  simp only [h.stored, h.coachId]

section Serving

variable {commands : CommandTable} {keep : String} {w : World}

theorem World.takesEntry_owns (hnamed : w.contexts.Named) {pair : String × String} {coach : Coach}
    {active : ContextId} (hactive : w.contexts.stored[pair.1]? = some active)
    (hplain : '/' ∉ pair.2.toList) {id : ContextId} {source : String}
    (h : w.takesEntry ⟨active, coach, pair.2, commands⟩ id source) : w.Owns pair id source := by
  unfold takesEntry at h
  refine ⟨hplain, active, hactive, ?_⟩
  rcases (Bool.or_eq_true _ _).mp h with h | h
  · obtain ⟨hid, hsource⟩ := (Bool.and_eq_true _ _).mp h
    exact .inl ⟨beq_iff_eq.mp hid, beq_iff_eq.mp hsource⟩
  · obtain ⟨hid, hsource⟩ := (Bool.and_eq_true _ _).mp h
    have hname : (w.get active).name = pair.1 := (hnamed pair.1 active hactive).2
    rw [hname] at hsource
    exact .inr ⟨List.contains_iff_mem.mp hid, beq_iff_eq.mp hsource⟩

/-- Worlds of one frame have the same job. -/
theorem World.SameFrame.job? {w' : World} (h : World.SameFrame w w') (pair : String × String) :
    w.job? pair = w'.job? pair := by
  unfold World.job?
  simp only [h.stored, h.host, h.coachId, h.name]

theorem World.job?_scoring (hhost : w.host.scoring commands) {pair : String × String}
    {active : ContextId} {coach : Coach} {lines : Listing}
    (h : w.job? pair = some (active, coach, lines)) :
    w.contexts.stored[pair.1]? = some active ∧ '/' ∉ pair.2.toList ∧
      ∀ line ∈ lines, line.scoring commands := by
  unfold job? at h
  simp only [Option.bind_eq_bind, Option.bind_eq_some_iff, Option.pure_def, Option.some.injEq,
    Prod.mk.injEq] at h
  obtain ⟨_, hactive, _, hcoach, text, htext, _, hlines, _, _, rfl, rfl, rfl⟩ := h
  have hknown : ∀ {x : Except HostFault (Option Coach)} {c : Coach},
      x.toOption.join = some c → x = .ok (some c) := by
    intro x c hx
    rcases x with e | _ | d <;> cases hx
    rfl
  have hread : ∀ {x : Except SyntaxFault Listing} {l : Listing}, x.toOption = some l → x = .ok l := by
    intro x l hx
    rcases x with e | d <;> cases hx
    rfl
  exact ⟨hactive, Host.scoring_of_coach hhost (hknown hcoach) htext (hread hlines)⟩

/-- **What serving a request does**, in all worlds of one frame: it replaces what the question owns
by the same contributions. -/
theorem World.serve_effect (keep : String) (hnamed : w.contexts.Named) (hhost : w.host.scoring commands)
    (pair : String × String) :
    ∃ (takes : ContextId → String → Bool)
      (adds : ContextId → String → List (String × ScoreEntry)),
      (∀ id source, takes id source → w.Owns pair id source) ∧
      (∀ id name, ∀ e ∈ adds id name, takes id e.1) ∧
      ∀ w', SameFrame w w' → SameFrame w' (w'.serve commands keep pair) ∧
        ∀ id name, (w'.serve commands keep pair).entries id name =
          ((w'.entries id name).filter fun e => !takes id e.1) ++ adds id name := by
  unfold serve
  cases hjob : w.job? pair with
  | none =>
    refine ⟨fun _ _ => false, fun _ _ => [], nofun, nofun, fun w' hw' => ?_⟩
    rw [← hw'.job?, hjob]
    refine ⟨.refl w', fun id name => ?_⟩
    rw [List.append_nil]
    exact (List.filter_eq_self.mpr fun _ _ => rfl).symm
  | some job =>
    obtain ⟨active, coach, lines⟩ := job
    obtain ⟨hactive, hplain, hscoring⟩ := job?_scoring hhost hjob
    let scene : Scene := ⟨active, coach, pair.2, commands⟩
    obtain ⟨adds, hadds, hrun⟩ := entries_runQuestion scene keep lines hscoring w
    refine ⟨w.takesEntry scene, adds, fun id source h => takesEntry_owns hnamed hactive hplain h,
      hadds, fun w' hw' => ?_⟩
    rw [← hw'.job?, hjob]
    exact hrun w' hw'

/-- **Served in any order and any number of times, the same questions leave the same contributions.** -/
theorem World.entries_foldl_perm (hnamed : w.contexts.Named) (hhost : w.host.scoring commands)
    {ps qs : List (String × String)} (hmem : ∀ p, p ∈ ps ↔ p ∈ qs) (id : ContextId) (name : String) :
    ((ps.foldl (serve commands keep) w).entries id name).Perm
      ((qs.foldl (serve commands keep) w).entries id name) := by
  choose takes adds howns hadds hserve using
    fun pair => serve_effect keep hnamed hhost pair
  have hfold : ∀ (ps : List (String × String)) w', SameFrame w w' →
      (ps.foldl (serve commands keep) w').entries id name =
        ps.foldl (replaceOwned (fun p e => takes p id e.1) (fun p => adds p id name))
          (w'.entries id name) := by
    intro ps
    induction ps with
    | nil => exact fun _ _ => rfl
    | cons p ps ih =>
      intro w' hw'
      obtain ⟨hframe, hentries⟩ := hserve p w' hw'
      rw [List.foldl_cons, List.foldl_cons, ih _ (hw'.trans hframe), hentries]
      rfl
  rw [hfold ps w (.refl w), hfold qs w (.refl w)]
  refine foldl_replace_perm (fun p e he => hadds p id name e he) (fun p q e hp hq => ?_) hmem _
  exact Owns.unique hnamed (howns p id e.1 hp) (howns q id e.1 hq)

end Serving

/-- Requests served in turn are evaluations in turn. -/
theorem Engine.serveAll_world {engine : Engine} (h : engine.Sound)
    (hhost : engine.world.host.scoring engine.commands) (rs : List Request)
    (hrs : ∀ r ∈ rs, r.addresses engine.world) :
    (engine.serveAll rs).world = (rs.map Request.pair).foldl
      (World.serve engine.commands engine.config.systemPrefix) engine.world := by
  induction rs generalizing engine with
  | nil => rfl
  | cons r rs ih =>
    obtain ⟨cache, hcache, hserve⟩ := engine.serve_eq h (hrs r List.mem_cons_self)
    obtain ⟨_, _, -, -, hframe⟩ := World.serve_effect engine.config.systemPrefix h.named hhost r.pair
    obtain ⟨hframe, -⟩ := hframe engine.world (.refl _)
    unfold Engine.serveAll at ih ⊢
    rw [List.foldl_cons, hserve]
    refine ih ⟨hcache, hframe.named h.named⟩ (by rw [← hframe.host]; exact hhost) fun s hs => ?_
    rw [← hframe.addresses]
    exact hrs s (List.mem_cons_of_mem r hs)

/-- **Scores do not depend on the order or the number of evaluations.** From a reachable engine whose
scripts only score, two sequences of requests that name the same questions of stored contexts leave
every total the same. -/
theorem Engine.value_serveAll {engine : Engine} (h : engine.Reachable)
    (hhost : engine.world.host.scoring engine.commands) {rs ss : List Request}
    (hrs : ∀ r ∈ rs, r.addresses engine.world) (hss : ∀ r ∈ ss, r.addresses engine.world)
    (hmem : ∀ p, p ∈ rs.map Request.pair ↔ p ∈ ss.map Request.pair) (id : ContextId)
    (name : String) :
    ((engine.serveAll rs).world.get id).scores.value name =
      ((engine.serveAll ss).world.get id).scores.value name := by
  rw [engine.serveAll_world h.sound hhost rs hrs, engine.serveAll_world h.sound hhost ss hss]
  exact Score.total_perm (World.entries_foldl_perm h.sound.named hhost hmem id name)

/-- Two questions of a coach and its instance, one of them with a limit, in two orders. -/
theorem Engine.value_serveAll_interleaved :
    let host := ((∅ : Host).addCoach ⟨"a", "", "", [⟨"q1", "TRUE : : addScore(\"s\", 1.5);"⟩]⟩).addCoach
      ⟨"b", "", "", [⟨"q1", "not(isAnswered(\"q1\")) : : root.addScore(\"s\", 2);"⟩,
        ⟨"q2", "TRUE : : \x7b parent.capScore(\"s\", 3); addScore(\"t\", 1); \x7d;"⟩]⟩
    let engine := (Engine.start .standard .builtin host).withContexts (.pair "a" "b" "c")
    let rs : List Request :=
      [.question "A" "q1", .subcoach "a.b.c" "q1", .subcoach "a.b.c" "q2", .subcoach "A" "q1"]
    let ss : List Request :=
      [.subcoach "a.b.c" "q2", .subcoach "a.b.C" "q1", .question "a" "q1"]
    engine.Reachable ∧ engine.world.host.scoring engine.commands ∧
      (∀ r ∈ rs, r.addresses engine.world) ∧ (∀ r ∈ ss, r.addresses engine.world) ∧
      (∀ p, p ∈ rs.map Request.pair ↔ p ∈ ss.map Request.pair) ∧ ∀ id name,
      ((engine.serveAll rs).world.get id).scores.value name =
        ((engine.serveAll ss).world.get id).scores.value name := by
  intro host engine rs ss
  have hreachable : engine.Reachable := Engine.reachable_pair _ _ _ _ _ _
  have hscoring : engine.world.host.scoring engine.commands := by decide +kernel
  have hrs : ∀ r ∈ rs, r.addresses engine.world := by decide +kernel
  have hss : ∀ r ∈ ss, r.addresses engine.world := by decide +kernel
  have hmem : ∀ p, p ∈ rs.map Request.pair ↔ p ∈ ss.map Request.pair := by
    have hrs : rs.map Request.pair = [("a", "q1"), ("a.b.c", "q1"), ("a.b.c", "q2"), ("a", "q1")] := by
      decide +kernel
    have hss : ss.map Request.pair = [("a.b.c", "q2"), ("a.b.c", "q1"), ("a", "q1")] := by
      decide +kernel
    intro p
    rw [hrs, hss]
    simp only [List.mem_cons, List.not_mem_nil, or_false]
    tauto
  exact ⟨hreachable, hscoring, hrs, hss, hmem,
    fun id name => Engine.value_serveAll hreachable hscoring hrs hss hmem id name⟩

/-- A coach whose id is the key of an instance of another runs its own script in the context of that
instance, so the last request decides. -/
theorem Engine.value_serveAll_collision :
    let host := (((∅ : Host).addCoach (.ofId "a")).addCoach
      ⟨"b", "", "", [⟨"q1", "TRUE : : addScore(\"s\", 1);"⟩]⟩).addCoach
      ⟨"a.b.c", "", "", [⟨"q1", "TRUE : : addScore(\"s\", 2);"⟩]⟩
    let engine := (Engine.start .standard .builtin host).withContexts (.pair "a" "b" "c")
    let rs : List Request := [.question "a.b.c" "q1", .subcoach "a.b.c" "q1"]
    let ss : List Request := rs ++ [.question "a.b.c" "q1"]
    engine.Reachable ∧ engine.world.host.scoring engine.commands ∧
      (∀ r ∈ rs ++ ss, engine.world.contexts.contains r.pair.1) ∧
      (∀ p, p ∈ rs.map Request.pair ↔ p ∈ ss.map Request.pair) ∧
      ((engine.serveAll rs).world.get 1).scores.value "s" ≠
        ((engine.serveAll ss).world.get 1).scores.value "s" := by
  intro host engine rs ss
  refine ⟨Engine.reachable_pair _ _ _ _ _ _, by decide +kernel, by decide +kernel, fun p => ?_,
    by decide +kernel⟩
  have hrs : rs.map Request.pair = [("a.b.c", "q1"), ("a.b.c", "q1")] := by decide +kernel
  have hss : ss.map Request.pair = [("a.b.c", "q1"), ("a.b.c", "q1"), ("a.b.c", "q1")] := by
    decide +kernel
  rw [hrs, hss]
  simp only [List.mem_cons, List.not_mem_nil, or_false, or_self]

end CoachScript
