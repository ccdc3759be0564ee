import CoachScript.Proofs.Pass.Tasks
import CoachScript.Proofs.State.Handles

/-!
# The books on living instances

The tree stores the instances that live, and the host has books on them.

* `World.BooksAgree`: the host has the stored instances in its books, and no others.
* `Moment.Told`: the host hears of every instance that the command drops.
* **`World.Booked.run`**: what one command does to the books.
* **`booksAgree_iff`**: the books agree after every command if and only if the host hears of all that
  is dropped; no living instance is ever missing there.
-/

namespace CoachScript

/-! ### Living instances -/

namespace Contexts

/-- The stored instances, as the host has them in its books. -/
def living (cs : Contexts) : List (String × String) :=
  (cs.stored.toList.filter fun (_, id) => (cs.get id).tag.isSome).map fun (_, id) =>
    (lowercase (cs.get id).coachId, (cs.get id).name)

variable {cs ds : Contexts}

theorem mem_living {e : String × String} : e ∈ cs.living ↔ ∃ (key : String) (id : ContextId),
    cs.stored[key]? = some id ∧ (cs.get id).tag.isSome ∧
      e = (lowercase (cs.get id).coachId, (cs.get id).name) := by
  unfold living
  simp only [List.mem_map, List.mem_filter, Prod.exists, Std.ExtTreeMap.mem_toList_iff_getElem?_eq_some]
  constructor
  · rintro ⟨key, id, ⟨hkey, htag⟩, rfl⟩
    exact ⟨key, id, hkey, htag, rfl⟩
  · rintro ⟨key, id, hkey, htag, rfl⟩
    exact ⟨key, id, ⟨hkey, htag⟩, rfl⟩

/-- Who lives is a matter of who the contexts are, and which are stored. -/
theorem living_congr (hstored : ds.stored = cs.stored)
    (hlabel : ∀ id, (ds.get id).label = (cs.get id).label) : ds.living = cs.living := by
  have hcoachId (id : ContextId) : (ds.get id).coachId = (cs.get id).coachId :=
    congrArg (·.1) (hlabel id)
  have hname (id : ContextId) : (ds.get id).name = (cs.get id).name := congrArg (·.2.1) (hlabel id)
  have htag (id : ContextId) : (ds.get id).tag = (cs.get id).tag := congrArg (·.2.2) (hlabel id)
  unfold living
  simp only [hstored, hcoachId, hname, htag]

theorem mem_living_add (h : cs.Named) {c : Context} (hfree : cs.stored[c.name]? = none)
    (e : String × String) : e ∈ (cs.add c.name c).2.living ↔
      e ∈ cs.living ∨ c.tag.isSome ∧ e = (lowercase c.coachId, c.name) := by
  rw [mem_living, mem_living]
  constructor
  · rintro ⟨key, id, hkey, htag, rfl⟩
    rw [stored_add] at hkey
    rw [get_add] at htag ⊢
    split_ifs at hkey with hname
    · cases hkey
      rw [if_pos rfl] at htag ⊢
      exact .inr ⟨htag, rfl⟩
    · rw [if_neg (Nat.ne_of_lt (h key id hkey).1)] at htag ⊢
      exact .inl ⟨key, id, hkey, htag, rfl⟩
  · rintro (⟨key, id, hkey, htag, rfl⟩ | ⟨htag, rfl⟩)
    · refine ⟨key, id, ?_, ?_⟩
      · rw [stored_add, if_neg (ne_of_stored hfree hkey)]
        exact hkey
      · rw [get_add, if_neg (Nat.ne_of_lt (h key id hkey).1)]
        exact ⟨htag, rfl⟩
    · refine ⟨c.name, cs.made.size, ?_, ?_⟩
      · rw [stored_add, if_pos rfl]
      · rw [get_add, if_pos rfl]
        exact ⟨htag, rfl⟩

theorem name_createInstance {parent child : ContextId} {coachId instanceId argument : String}
    (hds : cs.createInstance parent coachId instanceId argument = .ok (child, true, ds)) :
    (ds.get child).name = instanceName (cs.get parent).name coachId instanceId := by
  let c := Context.ofInstance (cs.get parent).name coachId instanceId argument
  obtain ⟨-, rfl, lineage, -, hds⟩ := createInstance_new hds
  have hlabel : (ds.get cs.made.size).label = ((cs.add c.name c).2.get cs.made.size).label := by
    rw [hds]
    exact label_modify { (cs.add c.name c).2 with lineage } parent _
      (f := (·.register ⟨coachId, instanceId, c.name, cs.made.size⟩)) fun _ => rfl
  rw [get_add, if_pos rfl] at hlabel
  exact congrArg (·.2.1) hlabel

/-- A new instance lives under its name. -/
theorem mem_living_createInstance (h : cs.Named) {parent child : ContextId}
    {coachId instanceId argument : String}
    (hds : cs.createInstance parent coachId instanceId argument = .ok (child, true, ds))
    (e : String × String) : e ∈ ds.living ↔ e ∈ cs.living ∨
      e = (lowercase coachId, instanceName (cs.get parent).name coachId instanceId) := by
  let c := Context.ofInstance (cs.get parent).name coachId instanceId argument
  obtain ⟨hfree, -, lineage, -, hds⟩ := createInstance_new hds
  have hliving : ds.living = (cs.add c.name c).2.living := by
    rw [hds]
    exact living_congr rfl fun id => label_modify { (cs.add c.name c).2 with lineage } parent id
      (f := (·.register ⟨coachId, instanceId, c.name, cs.made.size⟩)) fun _ => rfl
  rw [hliving, mem_living_add h hfree]
  exact or_congr_right (and_iff_right rfl)

/-- Of the living, those under the removed name and below live no longer. -/
theorem mem_living_removeInstance (h : cs.Named) (parent : ContextId) (coachId instanceId : String)
    (e : String × String) :
    let key := instanceName (cs.get parent).name coachId instanceId
    e ∈ (cs.removeInstance parent coachId instanceId).2.living ↔
      e ∈ cs.living ∧ ¬ (e.2 = key ∨ isBelow key e.2) := by
  intro key
  let rest := cs.modify parent (·.unregister coachId instanceId)
  have hrest : rest.living = cs.living := living_congr rfl fun id =>
    label_modify cs parent id (f := (·.unregister coachId instanceId)) fun _ => rfl
  have hnamed : rest.Named := h.modify parent fun _ => rfl
  show e ∈ (rest.removeTree key).2.living ↔ _
  rw [← hrest, mem_living, mem_living]
  constructor
  · rintro ⟨other, id, hother, htag, rfl⟩
    obtain ⟨hother, hnot⟩ := (stored_removeTree rest key other id).mp hother
    refine ⟨⟨other, id, hother, htag, rfl⟩, ?_⟩
    rw [← (hnamed other id hother).2] at hnot
    exact hnot
  · rintro ⟨⟨other, id, hother, htag, rfl⟩, hnot⟩
    refine ⟨other, id, (stored_removeTree rest key other id).mpr ⟨hother, ?_⟩, htag, rfl⟩
    rw [← (hnamed other id hother).2]
    exact hnot

end Contexts

/-! ### The host -/

namespace Host

variable {host : Host} (h : host.outages = [])
include h

/-- A host that works lets every operation pass. -/
theorem guard_of_working (operation : HostOperation) : host.guard operation = .ok () := by
  unfold guard
  rw [h]
  rfl

theorem createInstance_of_working {coachId : String} {coach : Coach}
    (hcoach : host.coach? coachId = some coach) (name : String) :
    host.createInstance coachId name = .ok
      { host with instances := host.instances.insert (lowercase coachId, lowercase name) } := by
  unfold createInstance
  rw [guard_of_working h, hcoach]
  rfl

theorem removeInstance_of_working (coachId name : String) :
    host.removeInstance coachId name = .ok
      { host with
        instances := host.instances.filter (· != (lowercase coachId, lowercase name)) } := by
  unfold removeInstance
  rw [guard_of_working h]
  rfl

end Host

/-- A host that answers which coach an id has, answers what it knows. -/
theorem Host.coach?_of_coach {host : Host} {coachId : String} {coach? : Option Coach}
    (h : ofHost (host.coach coachId) = .ok coach?) : host.coach? coachId = coach? := by
  unfold ofHost Host.coach at h
  cases hguard : host.guard .coach with
  | error e => rw [hguard] at h; cases h
  | ok _ => rw [hguard] at h; exact Except.ok.inj h

/-- The coach of an instance that is to be created is known. -/
theorem Builtin.coach?_of_creation {call : Call} {args : List Value} {w : World}
    {coachId instanceId argument : String}
    (h : Builtin.creation call args w = .ok (coachId, instanceId, argument)) :
    ∃ coach, w.host.coach? coachId = some coach := by
  have hensures : Ensures (fun r : String × String × String => ∃ coach, w.host.coach? r.1 = some coach)
      (Builtin.creation call args w) := by
    unfold Builtin.creation
    refine .bind fun ⟨coachId, instanceId⟩ _ => ?_
    have hcoach (argument : String) : Ensures
        (fun r : String × String × String => ∃ coach, w.host.coach? r.1 = some coach) (do
          if (← ofHost (w.host.coach coachId)).isNone then throw (.unknownCoach coachId)
          pure (coachId, instanceId, argument)) := by
      refine .bind fun coach? hcoach => .ite (fun _ => .error _) fun hknown => .ok ?_
      rw [Option.isNone_iff_eq_none] at hknown
      rw [Host.coach?_of_coach hcoach]
      exact Option.ne_none_iff_exists'.mp hknown
    exact .ite (fun _ => .bind fun argument _ => hcoach argument) fun _ => hcoach ""
  exact hensures (coachId, instanceId, argument) h

/-! ### Books -/

namespace World

/-- The host has the stored instances in its books, and no others. -/
def BooksAgree (w : World) : Prop := ∀ e, e ∈ w.host.instances ↔ e ∈ w.contexts.living

/-- A world with a working host, in whose books no living instance is missing. -/
structure Booked (w : World) : Prop where
  named : w.contexts.Named
  labelled : w.contexts.Labelled
  working : w.host.outages = []
  noted : ∀ e ∈ w.contexts.living, e ∈ w.host.instances

/-- Worlds with one host that store the same, under the same handles. -/
structure SameBooks (w w' : World) : Prop where
  host : w'.host = w.host
  size : w.contexts.made.size ≤ w'.contexts.made.size
  stored : w'.contexts.stored = w.contexts.stored
  label : ∀ id, (w'.get id).label = (w.get id).label
  handles : ∀ id, (w'.get id).handles = (w.get id).handles

variable {w w' : World}

namespace SameBooks

theorem refl (w : World) : SameBooks w w := ⟨rfl, Nat.le_refl _, rfl, fun _ => rfl, fun _ => rfl⟩

theorem modify (w : World) (id : ContextId) {f : Context → Context}
    (hlabel : ∀ c, (f c).label = c.label) (hhandles : ∀ c, (f c).handles = c.handles) :
    SameBooks w (w.modify id f) := by
  refine ⟨rfl, Nat.le_of_eq (Contexts.size_modify _ _ _).symm, rfl, fun other => ?_, fun other => ?_⟩
  · exact w.contexts.label_modify id other hlabel
  · unfold World.get World.modify
    dsimp only
    rw [Contexts.get_modify]
    split_ifs with hother
    · rw [hhandles, hother.1]
    · rfl

/-- Names of lines that started are nothing that the books have. -/
theorem leave (w : World) (id : ContextId) (fired : Fired) : SameBooks w (w.leave id fired) :=
  .modify w id (fun _ => rfl) fun _ => rfl

/-- Nor are contributions that are taken back. -/
theorem revert (w : World) (scene : Scene) (keep : String) : SameBooks w (w.revert scene keep) := by
  have hview (id : ContextId) : ((w.revert scene keep).get id).view = _ := view_revert id
  refine ⟨host_revert, Nat.le_of_eq size_revert.symm, stored_revert, fun id => ?_, fun id => ?_⟩
  · exact congrArg (fun v => (v.coachId, v.name, v.tag)) (hview id)
  · exact congrArg (·.handles) (hview id)

/-- Only two commands change the books. -/
theorem run (call : Call) (args : List Value) (w : World) {command : Command}
    (hcreate : command ≠ .createSubcoach) (hremove : command ≠ .removeSubcoach) :
    SameBooks w (command.run call args w).2 := by
  refine Command.run_elim call args w command (.refl w) (fun _ _ _ => ?_) (fun _ _ _ => ?_)
    (fun _ => ?_) (fun _ _ => ?_) (fun _ _ => ?_) (fun _ => ?_) (fun h => absurd h hcreate)
    fun h => absurd h hremove
  · exact .modify w _ (fun _ => rfl) fun _ => rfl
  · exact .modify w _ (fun _ => rfl) fun _ => rfl
  · exact .modify w _ (fun _ => rfl) fun _ => rfl
  · exact .modify w _ (fun _ => rfl) fun _ => rfl
  · unfold Builtin.reshelve
    cases w.contexts.shelf call.scene.active with
    | own id => exact .modify w id (fun _ => rfl) fun _ => rfl
    | bucket id tag => exact .modify w id (fun _ => rfl) fun _ => rfl
  · exact ⟨rfl, Nat.le_refl _, rfl, fun _ => rfl, fun _ => rfl⟩

variable (h : SameBooks w w')
include h

theorem living : w'.contexts.living = w.contexts.living := Contexts.living_congr h.stored h.label

theorem booksAgree : w'.BooksAgree ↔ w.BooksAgree := by
  unfold BooksAgree
  rw [h.host, h.living]

theorem booked (hw : w.Booked) : w'.Booked := by
  have hname (id : ContextId) : (w'.contexts.get id).name = (w.contexts.get id).name :=
    congrArg (·.2.1) (h.label id)
  have hhandles (id : ContextId) : (w'.contexts.get id).handles = (w.contexts.get id).handles :=
    h.handles id
  refine ⟨hw.named.mono (fun _ _ hid => ?_) h.size fun id _ => hname id, fun id tag handle hhandle => ?_,
    ?_, ?_⟩
  · rwa [h.stored] at hid
  · rw [hname]
    rw [hhandles] at hhandle
    exact hw.labelled id tag handle hhandle
  · rw [h.host]
    exact hw.working
  · rw [h.living, h.host]
    exact hw.noted

end SameBooks

end World

/-! ### Commands -/

namespace World.Booked

variable {w : World} (h : w.Booked) (call : Call) (args : List Value)
include h

/-- Creating an instance makes nothing of the books, or writes it in both. -/
theorem createSubcoach :
    (Builtin.createSubcoach call args w).2.Booked ∧
      (w.BooksAgree → (Builtin.createSubcoach call args w).2.BooksAgree) := by
  have hsame : w.Booked ∧ (w.BooksAgree → w.BooksAgree) := ⟨h, id⟩
  unfold Builtin.createSubcoach
  cases hcreation : Builtin.creation call args w with
  | error e => exact hsame
  | ok ids =>
    obtain ⟨coachId, instanceId, argument⟩ := ids
    dsimp only
    cases hcreate : w.contexts.createInstance call.target coachId instanceId argument with
    | error e => exact hsame
    | ok r =>
      obtain ⟨child, new, contexts⟩ := r
      cases new with
      | false =>
        rw [Contexts.createInstance_known hcreate]
        exact hsame
      | true =>
        dsimp only
        obtain ⟨coach, hcoach⟩ := Builtin.coach?_of_creation hcreation
        rw [Host.createInstance_of_working h.working hcoach]
        dsimp only
        have hliving := Contexts.mem_living_createInstance h.named hcreate
        have hname : lowercase (contexts.get child).name =
            instanceName (w.get call.target).name coachId instanceId := by
          rw [Contexts.name_createInstance hcreate]
          exact lowercase_lowercase _
        refine ⟨⟨h.named.createInstance hcreate, h.labelled.createInstance hcreate, h.working,
          fun e he => ?_⟩, fun hagree e => ?_⟩
        · rw [hname, List.mem_insert_iff]
          exact ((hliving e).mp he).symm.imp_right (h.noted e)
        · rw [hname, List.mem_insert_iff, hliving, hagree]
          exact or_comm

/-- What removing an instance makes of the books: the host strikes out the one that the removal
names, if there is a handle of it. -/
theorem host_removeSubcoach {coachId instanceId : String}
    (hids : Builtin.instanceIds call args = .ok (coachId, instanceId)) :
    let key := instanceName (call.context w).name coachId instanceId
    let w' := (Builtin.removeSubcoach call args w).2
    w'.contexts = (w.contexts.removeInstance call.target coachId instanceId).2 ∧
      w'.host.outages = [] ∧ ∀ e, e ∈ w'.host.instances ↔ e ∈ w.host.instances ∧
        ¬ (e = (lowercase coachId, key) ∧ ((call.context w).handle? coachId instanceId).isSome) := by
  intro key w'
  have hw' : w' = (Builtin.removeSubcoach call args w).2 := rfl
  unfold Builtin.removeSubcoach at hw'
  rw [hids] at hw'
  dsimp only at hw'
  cases hhandle : (call.context w).handle? coachId instanceId with
  | none =>
    rw [hhandle] at hw'
    rw [hw']
    exact ⟨rfl, h.working, fun e => (and_iff_left fun hnone => nomatch hnone.2).symm⟩
  | some handle =>
    have hkey : lowercase handle.name = key := by
      rw [h.labelled _ _ handle hhandle, lowercase_lowercase]
      rfl
    rw [hhandle] at hw'
    dsimp only at hw'
    rw [Host.removeInstance_of_working h.working, hkey] at hw'
    rw [hw']
    refine ⟨rfl, h.working, fun e => ?_⟩
    rw [List.mem_filter, bne_iff_ne]
    exact and_congr_right fun _ => not_congr (and_iff_left rfl).symm

end World.Booked

/-- The host hears of every instance that the command drops. Of the commands that the host does not
refuse, only a removal drops any; the host hears of the one that it names, if its target has a handle
of that. -/
def Dispatch.Told (d : Dispatch) (w : World) : Prop :=
  d.command = .removeSubcoach → ∀ coachId instanceId,
    Builtin.instanceIds d.call d.args = .ok (coachId, instanceId) →
      let key := instanceName (d.call.context w).name coachId instanceId
      ∀ e ∈ w.contexts.living, e.2 = key ∨ Contexts.isBelow key e.2 →
        e = (lowercase coachId, key) ∧ ((d.call.context w).handle? coachId instanceId).isSome

namespace World.Booked

variable {w : World} (h : w.Booked)
include h

/-- Removing an instance keeps the books together if and only if the host hears of what it drops. -/
theorem removeSubcoach (call : Call) (args : List Value) :
    (Builtin.removeSubcoach call args w).2.Booked ∧
      (w.BooksAgree → ((Builtin.removeSubcoach call args w).2.BooksAgree ↔
        Dispatch.Told ⟨.removeSubcoach, call, args⟩ w)) := by
  cases hids : Builtin.instanceIds call args with
  | error e =>
    have hsame : (Builtin.removeSubcoach call args w).2 = w := by
      unfold Builtin.removeSubcoach
      rw [hids]
    rw [hsame]
    exact ⟨h, fun hagree => iff_of_true hagree fun _ _ _ hok => nomatch hids.symm.trans hok⟩
  | ok ids =>
    obtain ⟨coachId, instanceId⟩ := ids
    obtain ⟨hcontexts, hworking, hhost⟩ := h.host_removeSubcoach call args hids
    have hliving := Contexts.mem_living_removeInstance h.named call.target coachId instanceId
    rw [← hcontexts] at hliving
    refine ⟨⟨?_, ?_, hworking, fun e he => ?_⟩, fun hagree => ⟨fun hafter => ?_, fun htold e => ?_⟩⟩
    · rw [hcontexts]
      exact h.named.removeInstance _ _ _
    · rw [hcontexts]
      exact h.labelled.removeInstance _ _ _
    · -- What is struck out has the removed name, so it lives no longer.
      obtain ⟨hbefore, hkept⟩ := (hliving e).mp he
      exact (hhost e).mpr ⟨h.noted e hbefore, fun hstruck => hkept (.inl (congrArg (·.2) hstruck.1))⟩
    · intro _ coachId' instanceId' hok key e he hdropped
      cases hids.symm.trans hok
      refine Classical.byContradiction fun hunheard => ?_
      have hstays := (hhost e).mpr ⟨(hagree e).mpr he, hunheard⟩
      exact ((hliving e).mp ((hafter e).mp hstays)).2 hdropped
    · refine (hhost e).trans (.trans ?_ (hliving e).symm)
      rw [hagree]
      exact and_congr_right fun he => not_congr
        ⟨fun hstruck => .inl (congrArg (·.2) hstruck.1), htold rfl coachId instanceId hids e he⟩

/-- **What one command does to the books.** -/
theorem run (d : Dispatch) :
    (d.run w).2.Booked ∧ (w.BooksAgree → ((d.run w).2.BooksAgree ↔ d.Told w)) := by
  obtain ⟨command, call, args⟩ := d
  by_cases hremove : command = .removeSubcoach
  · subst hremove
    exact h.removeSubcoach call args
  · have htold : Dispatch.Told ⟨command, call, args⟩ w := fun h => absurd h hremove
    by_cases hcreate : command = .createSubcoach
    · subst hcreate
      obtain ⟨hbooked, hagree⟩ := h.createSubcoach call args
      exact ⟨hbooked, fun hbefore => iff_of_true (hagree hbefore) htold⟩
    · have hsame := SameBooks.run call args w hcreate hremove
      exact ⟨hsame.booked h, fun hbefore => iff_of_true (hsame.booksAgree.mpr hbefore) htold⟩

end World.Booked

/-! ### Runs -/

/-- The host hears of every instance that the command drops. -/
def Moment.Told (m : Moment) : Prop := m.dispatch.Told m.world

namespace World

variable {w : World}

/-- The context of a coach is in no book. -/
theorem Booked.obtain (h : w.Booked) (coachId : String) :
    Booked { w with contexts := (w.contexts.obtain coachId).2 } ∧
      ∀ e, e ∈ (w.contexts.obtain coachId).2.living ↔ e ∈ w.contexts.living := by
  unfold Contexts.obtain
  cases hfind : w.contexts.find? coachId with
  | some id => exact ⟨h, fun _ => Iff.rfl⟩
  | none =>
    have hliving (e : String × String) :
        e ∈ (w.contexts.add (lowercase coachId) (.ofCoach coachId)).2.living ↔
          e ∈ w.contexts.living :=
      (Contexts.mem_living_add h.named (c := .ofCoach coachId) hfind e).trans
        (or_iff_left fun hnew => nomatch hnew.1)
    exact ⟨⟨h.named.add (.ofCoach coachId), h.labelled.add _ rfl, h.working, fun e he =>
      h.noted e ((hliving e).mp he)⟩, hliving⟩

/-- What comes before the commands of a task leaves the books as they are. -/
theorem Booked.start (h : w.Booked) (task : Task) :
    (task.start w).Booked ∧ (w.BooksAgree → (task.start w).BooksAgree) := by
  cases task with
  | obtain coachId =>
    obtain ⟨hbooked, hliving⟩ := h.obtain coachId
    exact ⟨hbooked, fun hagree e => (hagree e).trans (hliving e).symm⟩
  | evaluate | run => exact ⟨h, id⟩
  | rerun scene keep =>
    have hsame := SameBooks.revert w scene keep
    exact ⟨hsame.booked h, hsame.booksAgree.mpr⟩

/-- Commands keep the books, and keep them together if and only if the host hears of what they drop. -/
theorem booked_decides :
    Moment.Decides (fun _ _ => True) (fun _ => True) Booked BooksAgree Moment.Told where
  start _ task _ h := h.start task
  step m _ h := h.run m.dispatch
  leave w id fired h :=
    have hsame := SameBooks.leave w id fired
    ⟨hsame.booked h, hsame.booksAgree.mpr⟩

theorem Booked.of_mem_tasks (h : w.Booked) (tasks : List Task) :
    ∀ m ∈ Task.moments tasks w, m.after.Booked :=
  booked_decides.of_mem_tasks (Task.along_of_forall (fun _ _ => trivial) tasks)
    (fun _ _ => trivial) h

theorem Booked.tasks_iff (h : w.Booked) (hagree : w.BooksAgree) (tasks : List Task) :
    (∀ m ∈ Task.moments tasks w, m.after.BooksAgree) ↔ ∀ m ∈ Task.moments tasks w, m.Told :=
  booked_decides.tasks_iff (Task.along_of_forall (fun _ _ => trivial) tasks) (fun _ _ => trivial) h
    hagree

end World

/-- **The books agree after every command if and only if the host hears of all that is dropped**, in
whatever is done from the start with a working host; no living instance is ever missing there. -/
theorem booksAgree_iff {host : Host} (hworking : host.outages = []) (hnew : host.instances = [])
    (tasks : List Task) :
    let moments := Task.moments tasks ⟨∅, host, #[]⟩
    ((∀ m ∈ moments, m.after.BooksAgree) ↔ ∀ m ∈ moments, m.Told) ∧
      ∀ m ∈ moments, ∀ e ∈ m.after.contexts.living, e ∈ m.after.host.instances := by
  intro moments
  have hnone : (∅ : Contexts).living = [] := rfl
  have hbooked : World.Booked ⟨∅, host, #[]⟩ := by
    refine ⟨.empty, .empty, hworking, fun e he => ?_⟩
    rw [hnone] at he
    cases he
  have hagree : World.BooksAgree ⟨∅, host, #[]⟩ := by
    intro e
    show e ∈ host.instances ↔ e ∈ (∅ : Contexts).living
    rw [hnew, hnone]
  exact ⟨hbooked.tasks_iff hagree tasks, fun m hm => (hbooked.of_mem_tasks tasks m hm).noted⟩

/-- An instance below another is dropped with it, and the host keeps it in its books. -/
theorem booksAgree_iff_nested :
    let host := ((∅ : Host).addCoach (.ofId "b")).addCoach (.ofId "d")
    let within (id : ContextId) (coach command coachId instanceId : String) : Task :=
      .evaluate ⟨id, .ofId coach, "q1", .builtin⟩
        (.call (.levels 0) command [.value (.string coachId), .value (.string instanceId)])
    let tasks : List Task := [.obtain "a", within 0 "a" "createSubcoach" "b" "c",
      within 1 "b" "createSubcoach" "d" "e", within 0 "a" "removeSubcoach" "b" "c"]
    let moments := Task.moments tasks ⟨∅, host, #[]⟩
    host.outages = [] ∧ host.instances = [] ∧ ¬ (∀ m ∈ moments, m.after.BooksAgree) ∧
      ∃ m ∈ moments, m.after.contexts.living = [] ∧
        m.after.host.instances = [("d", "a.b.c.d.e")] := by
  intro host within tasks moments
  let last := moments.get ⟨2, by decide +kernel⟩
  have hlast : last ∈ moments := List.get_mem moments _
  have hids : Builtin.instanceIds last.dispatch.call last.dispatch.args = .ok ("b", "c") := rfl
  obtain ⟨hremove, hname, hlives, hliving, hinstances⟩ :
      last.dispatch.command = .removeSubcoach ∧
        instanceName (last.dispatch.call.context last.world).name "b" "c" = "a.b.c" ∧
        ("d", "a.b.c.d.e") ∈ last.world.contexts.living ∧
        last.after.contexts.living = [] ∧
        last.after.host.instances = [("d", "a.b.c.d.e")] := by decide +kernel
  obtain ⟨hagree, -⟩ := booksAgree_iff (show host.outages = [] from rfl) rfl tasks
  refine ⟨rfl, rfl, fun h => ?_, last, hlast, hliving, hinstances⟩
  have htold := hagree.mp h last hlast hremove "b" "c" hids _ hlives
  rw [hname] at htold
  exact absurd (htold (.inr (by decide +kernel))).1 (by decide +kernel)

end CoachScript
