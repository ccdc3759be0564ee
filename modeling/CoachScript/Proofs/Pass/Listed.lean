import CoachScript.Proofs.Pass.Books

/-!
# What parents list

The store knows an instance by its name, in any letter case; the parent that made it has a handle of
it by its tag, as it was spelled then.

* `Contexts.ListsLiving`: the handles of stored contexts lead to instances that are stored below them.
* `Contexts.RemovesListed`: a removal takes an instance from no stored parent that goes on listing it.
* **`Contexts.Tidy.removeInstance_iff`**: what a removal does to the lists.
* **`listsLiving_iff`**: after every command no stored context lists what is not there, if and only if
  every instance with a stored parent is removed by that parent, in the spelling of its creation.
-/

namespace CoachScript

/-! ### Plain names -/

/-- The name is in small letters and has an even number of dots, and a tag is of two ids without any. -/
def PlainLabel : String × String × Option String → Prop := fun (_, name, tag?) =>
  IsSmallText name ∧ name.toList.count '.' % 2 = 0 ∧ ∀ tag ∈ tag?, Contexts.PlainTag tag

namespace PlainLabel

theorem ofCoach {coachId : String} (hdots : DotFree coachId) :
    PlainLabel (Context.ofCoach coachId).label := by
  have hcount : (lowercase coachId).toList.count '.' = 0 :=
    List.count_eq_zero.mpr (dotFree_lowercase hdots)
  exact ⟨isSmallText_lowercase coachId, congrArg (· % 2) hcount, nofun⟩

theorem default : PlainLabel (default : Context).label := by
  have hdots : DotFree "" := nofun
  exact ofCoach hdots

/-- An instance of a parent with a plain name, by ids without a dot. -/
theorem instance_ {c : Context} (h : PlainLabel c.label) {coachId instanceId : String}
    (hcoach : DotFree coachId) (hinstance : DotFree instanceId) :
    PlainLabel (coachId, instanceName c.name coachId instanceId,
      some (instanceTag coachId instanceId)) := by
  obtain ⟨hsmall, heven, -⟩ := h
  obtain ⟨tail, htail, hcount⟩ := toList_instanceName hsmall coachId instanceId
  refine ⟨isSmallText_instanceName _ _ _, ?_, fun tag htag => ?_⟩
  · rw [htail, List.count_append, List.count_cons_self, hcount, count_instanceTag hcoach hinstance,
      Nat.add_mod_right]
    exact heven
  · cases htag
    exact ⟨coachId, instanceId, hcoach, hinstance, rfl⟩

end PlainLabel

namespace Contexts

/-- The handles of stored contexts lead to the instances that are stored under their names, below
those contexts. -/
def ListsLiving (cs : Contexts) : Prop :=
  ∀ (key : String) (id : ContextId) (tag : String) (handle : Handle), cs.stored[key]? = some id →
    (cs.get id).handles[tag]? = some handle →
      cs.stored[handle.name]? = some handle.context ∧ cs.parent? handle.context = some id

/-- If the instance that a removal names is stored below a stored parent, it is removed by that
parent, by the tag that it was given there. -/
def RemovesListed (cs : Contexts) (target : ContextId) (coachId instanceId : String) : Prop :=
  ∀ child parent, cs.stored[instanceName (cs.get target).name coachId instanceId]? = some child →
    cs.parent? child = some parent → cs.Stores parent →
      parent = target ∧ (cs.get child).tag = some (instanceTag coachId instanceId)

/-- What was just created can be taken back. -/
theorem removesListed_createInstance {cs ds : Contexts} {parent child : ContextId}
    {coachId instanceId argument : String}
    (hds : cs.createInstance parent coachId instanceId argument = .ok (child, true, ds))
    (hparent : parent < cs.made.size) : ds.RemovesListed parent coachId instanceId := by
  intro other above hother habove _
  rw [name_parent_createInstance hds hparent, stored_createInstance hds, if_pos rfl] at hother
  cases hother
  rw [parent?_createInstance hds, if_pos rfl] at habove
  cases habove
  exact ⟨rfl, congrArg (·.2.2) ((label_createInstance hds hparent _).trans (if_pos rfl))⟩

/-- A tree of plain names, in which instances are registered. -/
structure Tidy (cs : Contexts) : Prop where
  named : cs.Named
  grounded : cs.Grounded
  registered : cs.Registered
  plain : cs.AllLabels PlainLabel

namespace Tidy

variable {cs ds : Contexts}

theorem empty : Tidy ∅ := ⟨.empty, .empty, .empty, .empty .default⟩

variable (h : Tidy cs)
include h

theorem obtain {coachId : String} (hdots : DotFree coachId) : Tidy (cs.obtain coachId).2 :=
  ⟨h.named.obtain coachId, h.grounded.obtain coachId, h.registered.obtain h.grounded coachId,
    h.plain.obtain (.ofCoach hdots)⟩

theorem createInstance {parent child : ContextId} {coachId instanceId argument : String}
    (hds : cs.createInstance parent coachId instanceId argument = .ok (child, true, ds))
    (hparent : parent < cs.made.size) (hcoach : DotFree coachId) (hinstance : DotFree instanceId) :
    Tidy ds :=
  ⟨h.named.createInstance hds, h.grounded.createInstance hparent hds,
    h.registered.createInstance h.named hds hparent,
    h.plain.createInstance hds hparent ((h.plain parent).instance_ hcoach hinstance)⟩

theorem removeInstance (parent : ContextId) (coachId instanceId : String) :
    Tidy (cs.removeInstance parent coachId instanceId).2 :=
  ⟨h.named.removeInstance parent coachId instanceId,
    h.grounded.removeInstance parent coachId instanceId,
    h.registered.removeInstance parent coachId instanceId,
    h.plain.of_label (label_removeInstance cs parent coachId instanceId)⟩

/-- The name of a handle is that of an instance of the parent, by ids without a dot. -/
theorem name_handle {id : ContextId} {tag : String} {handle : Handle}
    (hhandle : (cs.get id).handles[tag]? = some handle) : ∃ coachId instanceId,
      DotFree coachId ∧ DotFree instanceId ∧
        handle.name = instanceName (cs.get id).name coachId instanceId := by
  have htag := h.registered.tagged id tag handle hhandle
  exact h.registered.labelled.name_of_plainTag ((h.plain handle.context).2.2 tag htag) hhandle

/-- Nothing that a removal drops is above the instance of a handle, but what names the instance. -/
theorem stays_of_handle {target id : ContextId} {coachId instanceId tag : String} {handle : Handle}
    (hcoach : DotFree coachId) (hinstance : DotFree instanceId)
    (hhandle : (cs.get id).handles[tag]? = some handle) :
    let removed := instanceName (cs.get target).name coachId instanceId
    isBelow removed handle.name → (cs.get id).name = removed ∨ isBelow removed (cs.get id).name := by
  intro removed hbelow
  obtain ⟨hsmall, heven, -⟩ := h.plain id
  obtain ⟨coachId', instanceId', hcoach', hinstance', hname⟩ := h.name_handle hhandle
  have hremoved := ((h.plain target).instance_ hcoach hinstance).2.1
  rw [hname, isBelow_instanceName_iff hsmall hcoach' hinstance' hremoved heven] at hbelow
  exact hbelow.imp_left Eq.symm

/-- **A removal leaves no list with an instance that it drops, if and only if it removes what it drops
from the list.** -/
theorem removeInstance_iff (hlists : cs.ListsLiving) {target : ContextId}
    {coachId instanceId : String} (hcoach : DotFree coachId) (hinstance : DotFree instanceId) :
    (cs.removeInstance target coachId instanceId).2.ListsLiving ↔
      cs.RemovesListed target coachId instanceId := by
  constructor
  · intro hafter child parent hchild hparent hstores
    obtain ⟨tag, handle, hhandle, rfl, hname⟩ := h.registered.known _ child parent hchild hparent
    have htag := h.registered.tagged parent tag handle hhandle
    by_cases hasked : parent = target ∧ instanceTag coachId instanceId = tag
    · exact ⟨hasked.1, htag.trans (congrArg some hasked.2.symm)⟩
    · -- The parent stays, with a handle of what is dropped.
      obtain ⟨coachId', instanceId', -, -, hname'⟩ := h.name_handle hhandle
      have hlonger := length_lt_instanceName (h.plain parent).1 coachId' instanceId'
      rw [← hname', hname] at hlonger
      have hstays := (stored_removeInstance cs target coachId instanceId _ parent).mpr ⟨hstores, by
        rintro (heq | hbelow)
        · exact Nat.lt_irrefl _ (heq ▸ hlonger)
        · exact Nat.lt_asymm hlonger (length_lt_of_isBelow hbelow)⟩
      have hkept := (handles_removeInstance cs target coachId instanceId parent tag).trans
        ((if_neg hasked).trans hhandle)
      have hstored := (hafter _ parent tag handle hstays hkept).1
      rw [hname, stored_removeInstance] at hstored
      exact absurd (.inl rfl) hstored.2
  · intro hclean key id tag handle hid hhandle
    rw [stored_removeInstance] at hid
    obtain ⟨hid, hstays⟩ := hid
    rw [handles_removeInstance] at hhandle
    split_ifs at hhandle with hasked
    obtain ⟨hstored, hparent⟩ := hlists key id tag handle hid hhandle
    have hkey := (h.named key id hid).2
    rw [← hkey] at hid hstays
    refine ⟨(stored_removeInstance cs target coachId instanceId _ _).mpr ⟨hstored, ?_⟩, hparent⟩
    rintro (hname | hbelow)
    · rw [hname] at hstored
      obtain ⟨rfl, htag⟩ := hclean handle.context id hstored hparent hid
      have htag' := h.registered.tagged id tag handle hhandle
      exact hasked ⟨rfl, Option.some_inj.mp (htag.symm.trans htag')⟩
    · exact hstays (h.stays_of_handle hcoach hinstance hhandle hbelow)

/-- A new instance is on the list of its parent alone, and takes no other's name. -/
theorem lists_createInstance (hlists : cs.ListsLiving) {parent child : ContextId}
    {coachId instanceId argument : String}
    (hds : cs.createInstance parent coachId instanceId argument = .ok (child, true, ds))
    (hparent : parent < cs.made.size) : ds.ListsLiving := by
  have hfree : cs.stored[instanceName (cs.get parent).name coachId instanceId]? = none :=
    (createInstance_new hds).1
  intro key id tag handle hid hhandle
  rw [handles_createInstance hds hparent] at hhandle
  rw [stored_createInstance hds, parent?_createInstance hds]
  split_ifs at hhandle with hnew
  · cases hhandle
    exact ⟨if_pos rfl, (if_pos rfl).trans (congrArg some hnew.1.symm)⟩
  · rw [stored_createInstance hds] at hid
    split_ifs at hid with hkey
    · -- The new instance has no handles itself.
      cases hid
      rw [get_size] at hhandle
      cases hhandle
    · obtain ⟨hstored, habove⟩ := hlists key id tag handle hid hhandle
      rw [if_neg (ne_of_stored hfree hstored),
        if_neg (Nat.ne_of_lt (h.registered.context_lt hhandle))]
      exact ⟨hstored, habove⟩

theorem lists_obtain (hlists : cs.ListsLiving) (coachId : String) :
    (cs.obtain coachId).2.ListsLiving := by
  unfold Contexts.obtain
  cases hfind : cs.find? coachId with
  | some id => exact hlists
  | none =>
    intro key id tag handle hid hhandle
    rw [stored_add] at hid ⊢
    rw [get_add] at hhandle
    split_ifs at hid with hkey
    · cases hid
      rw [if_pos rfl] at hhandle
      cases hhandle
    · rw [if_neg (Nat.ne_of_lt (h.named key id hid).1)] at hhandle
      obtain ⟨hstored, habove⟩ := hlists key id tag handle hid hhandle
      rw [if_neg (ne_of_stored hfind hstored)]
      exact ⟨hstored, habove⟩

omit h in
/-- Where nothing changes but what contexts hold, the lists stay. -/
theorem of_sameBooks {w w' : World} (h : w.contexts.Tidy) (hsame : World.SameBooks w w')
    (hgrounded : w'.contexts.Grounded)
    (habove : ∀ id, id < w.contexts.made.size → w'.contexts.ancestors id = w.contexts.ancestors id) :
    w'.contexts.Tidy ∧ (w.contexts.ListsLiving → w'.contexts.ListsLiving) := by
  have hparent (id : ContextId) (hid : id < w.contexts.made.size) :
      w'.contexts.parent? id = w.contexts.parent? id := congrArg List.head? (habove id hid)
  have hhandles (id : ContextId) : (w'.contexts.get id).handles = (w.contexts.get id).handles :=
    hsame.handles id
  refine ⟨⟨?_, hgrounded, ?_, h.plain.of_label hsame.label⟩, fun hlists key id tag handle hid hhandle => ?_⟩
  · refine h.named.mono (fun _ _ hid => ?_) hsame.size fun id _ => congrArg (·.2.1) (hsame.label id)
    rwa [hsame.stored] at hid
  · refine h.registered.mono hsame.label hhandles (fun _ _ hid => ?_)
      fun key id hid => hparent id (h.named key id hid).1
    rwa [hsame.stored] at hid
  · rw [hhandles] at hhandle
    rw [hsame.stored] at hid ⊢
    rw [hparent _ (h.registered.context_lt hhandle)]
    exact hlists key id tag handle hid hhandle

omit h in
theorem of_sameLineage {w w' : World} (h : w.contexts.Tidy) (hsame : World.SameBooks w w')
    (hlineage : w'.contexts.lineage = w.contexts.lineage) :
    w'.contexts.Tidy ∧ (w.contexts.ListsLiving → w'.contexts.ListsLiving) :=
  h.of_sameBooks hsame (h.grounded.of_lineage hlineage hsame.size) fun id _ =>
    congrArg (Lineage.ancestors · id) hlineage

end Tidy

end Contexts

/-! ### Commands -/

namespace Moment

/-- The ids of an instance that the command creates or removes have no dot. -/
def Plain (m : Moment) : Prop :=
  m.dispatch.command = .createSubcoach ∨ m.dispatch.command = .removeSubcoach →
    ∀ ids ∈ (Builtin.instanceIds m.dispatch.call m.dispatch.args).toOption,
      DotFree ids.1 ∧ DotFree ids.2

instance (m : Moment) : Decidable m.Plain := inferInstanceAs (Decidable (_ → _))

/-- If the command removes an instance with a stored parent, it does so for that parent, in the
spelling in which that has created the instance. -/
def RemovesListed (m : Moment) : Prop :=
  m.dispatch.command = .removeSubcoach → ∀ coachId instanceId,
    Builtin.instanceIds m.dispatch.call m.dispatch.args = .ok (coachId, instanceId) →
      m.world.contexts.RemovesListed m.dispatch.call.target coachId instanceId

/-- The command acts on a context that exists. -/
theorem Seated.target_lt {m : Moment} (h : m.Seated) (hgrounded : m.world.contexts.Grounded) :
    m.dispatch.call.target < m.world.contexts.made.size := by
  obtain ⟨⟨-, htarget⟩, hactive⟩ := h
  rcases htarget with heq | hmem
  · rw [heq]
    exact hactive
  · exact (hgrounded _ _ hmem).2

end Moment

/-- The ids of an instance that is to be created are those that name it. -/
theorem Builtin.instanceIds_of_creation {call : Call} {args : List Value} {w : World}
    {coachId instanceId argument : String}
    (h : Builtin.creation call args w = .ok (coachId, instanceId, argument)) :
    Builtin.instanceIds call args = .ok (coachId, instanceId) := by
  have hensures : Ensures (fun r : String × String × String =>
      Builtin.instanceIds call args = .ok (r.1, r.2.1)) (Builtin.creation call args w) := by
    unfold Builtin.creation
    refine .bind fun ids hids => ?_
    have hcoach (argument : String) : Ensures (fun r : String × String × String =>
        Builtin.instanceIds call args = .ok (r.1, r.2.1)) (do
          if (← ofHost (w.host.coach ids.1)).isNone then throw (.unknownCoach ids.1)
          pure (ids.1, ids.2, argument)) :=
      .bind fun _ _ => .ite (fun _ => .error _) fun _ => .ok hids
    exact .ite (fun _ => .bind fun argument _ => hcoach argument) fun _ => hcoach ""
  exact hensures (coachId, instanceId, argument) h

namespace Contexts.Tidy

variable {w : World} (h : w.contexts.Tidy) (call : Call) (args : List Value)
  (hplain : ∀ ids ∈ (Builtin.instanceIds call args).toOption, DotFree ids.1 ∧ DotFree ids.2)
include h hplain

/-- Creating an instance keeps the lists, also where the host refuses it. -/
theorem createSubcoach (htarget : call.target < w.contexts.made.size) :
    (Builtin.createSubcoach call args w).2.contexts.Tidy ∧ (w.contexts.ListsLiving →
      (Builtin.createSubcoach call args w).2.contexts.ListsLiving) := by
  have hsame : w.contexts.Tidy ∧ (w.contexts.ListsLiving → w.contexts.ListsLiving) := ⟨h, id⟩
  unfold Builtin.createSubcoach
  cases hcreation : Builtin.creation call args w with
  | error e => exact hsame
  | ok r =>
    obtain ⟨coachId, instanceId, argument⟩ := r
    rw [Builtin.instanceIds_of_creation hcreation] at hplain
    obtain ⟨hcoach, hinstance⟩ := hplain _ rfl
    dsimp only
    cases hcreate : w.contexts.createInstance call.target coachId instanceId argument with
    | error e => exact hsame
    | ok r =>
      obtain ⟨child, new, contexts⟩ := r
      cases new with
      | false =>
        rw [Contexts.createInstance_known hcreate]
        exact hsame
      | true =>
        have htidy := h.createInstance hcreate htarget hcoach hinstance
        have hlists (hbefore : w.contexts.ListsLiving) :=
          h.lists_createInstance hbefore hcreate htarget
        dsimp only
        cases w.host.createInstance coachId (contexts.get child).name with
        | ok host => exact ⟨htidy, hlists⟩
        | error e =>
          exact ⟨htidy.removeInstance _ _ _, fun hbefore =>
            (htidy.removeInstance_iff (hlists hbefore) hcoach hinstance).mpr
              (removesListed_createInstance hcreate htarget)⟩

/-- Removing an instance keeps the lists, if and only if it is removed from them. -/
theorem removeSubcoach :
    (Builtin.removeSubcoach call args w).2.contexts.Tidy ∧ (w.contexts.ListsLiving →
      ((Builtin.removeSubcoach call args w).2.contexts.ListsLiving ↔
        Moment.RemovesListed ⟨w, .removeSubcoach, call, args⟩)) := by
  cases hids : Builtin.instanceIds call args with
  | error e =>
    have hsame : (Builtin.removeSubcoach call args w).2 = w := by
      unfold Builtin.removeSubcoach
      rw [hids]
    rw [hsame]
    exact ⟨h, fun hlists => iff_of_true hlists fun _ _ _ hok => nomatch hids.symm.trans hok⟩
  | ok ids =>
    obtain ⟨coachId, instanceId⟩ := ids
    have hcontexts : (Builtin.removeSubcoach call args w).2.contexts =
        (w.contexts.removeInstance call.target coachId instanceId).2 := by
      unfold Builtin.removeSubcoach
      rw [hids]
      dsimp only
      cases (call.context w).handle? coachId instanceId with
      | none => rfl
      | some handle =>
        dsimp only
        cases w.host.removeInstance coachId handle.name <;> rfl
    rw [hids] at hplain
    obtain ⟨hcoach, hinstance⟩ := hplain _ rfl
    rw [hcontexts]
    refine ⟨h.removeInstance _ _ _, fun hlists =>
      (h.removeInstance_iff hlists hcoach hinstance).trans ⟨fun hclean _ coachId' instanceId' hok => ?_,
        fun hclean => hclean rfl coachId instanceId hids⟩⟩
    cases hids.symm.trans hok
    exact hclean

end Contexts.Tidy

/-- **What one command does to the lists.** -/
theorem Contexts.Tidy.run {m : Moment} (h : m.world.contexts.Tidy) (hseated : m.Seated)
    (hplain : m.Plain) : m.after.contexts.Tidy ∧
      (m.world.contexts.ListsLiving → (m.after.contexts.ListsLiving ↔ m.RemovesListed)) := by
  have htarget := hseated.target_lt h.grounded
  obtain ⟨w, command, call, args⟩ := m
  by_cases hremove : command = .removeSubcoach
  · subst hremove
    exact h.removeSubcoach call args (hplain (.inr rfl))
  · have hclean : Moment.RemovesListed ⟨w, command, call, args⟩ := fun heq => absurd heq hremove
    by_cases hcreate : command = .createSubcoach
    · subst hcreate
      obtain ⟨htidy, hlists⟩ := h.createSubcoach call args (hplain (.inl rfl)) htarget
      exact ⟨htidy, fun hbefore => iff_of_true (hlists hbefore) hclean⟩
    · obtain ⟨hgrounded, habove⟩ := (Command.effect call args w command).grounded h.grounded htarget
      obtain ⟨htidy, hlists⟩ :=
        h.of_sameBooks (World.SameBooks.run call args w hcreate hremove) hgrounded habove
      exact ⟨htidy, fun hbefore => iff_of_true (hlists hbefore) hclean⟩

/-- What comes before the commands of a task leaves the lists as they are. -/
theorem Contexts.Tidy.start {w : World} (h : w.contexts.Tidy) {task : Task} (hsound : task.Sound w) :
    (task.start w).contexts.Tidy ∧
      (w.contexts.ListsLiving → (task.start w).contexts.ListsLiving) := by
  cases task with
  | obtain coachId => exact ⟨h.obtain hsound, fun hlists => h.lists_obtain hlists coachId⟩
  | evaluate | run => exact ⟨h, id⟩
  | rerun scene keep =>
    exact h.of_sameLineage (World.SameBooks.revert w scene keep) World.lineage_revert

/-- Commands keep the tree tidy, and its lists true if and only if they remove what is listed. -/
theorem listsLiving_decides : Moment.Decides (fun w task => task.Sound w)
    (fun m => m.Seated ∧ m.Plain) (·.contexts.Tidy) (·.contexts.ListsLiving) Moment.RemovesListed where
  start _ _ hsound h := h.start hsound
  step _ hkind h := h.run hkind.1 hkind.2
  leave w id fired h := h.of_sameLineage (.leave w id fired) rfl

/-- **No stored context lists what is not there, if and only if every instance with a stored parent is
removed by that parent, in the spelling of its creation.** This is so after every command of whatever is
done from the start with scripts in contexts that exist and with ids without a dot. -/
theorem listsLiving_iff {host : Host} {tasks : List Task}
    (hsound : Task.Along Task.Sound ⟨∅, host, #[]⟩ tasks)
    (hplain : ∀ m ∈ Task.moments tasks ⟨∅, host, #[]⟩, m.Plain) :
    let moments := Task.moments tasks ⟨∅, host, #[]⟩
    (∀ m ∈ moments, m.after.contexts.ListsLiving) ↔ ∀ m ∈ moments, m.RemovesListed := by
  intro moments
  have hlists : (∅ : Contexts).ListsLiving := by
    intro key id tag handle hid
    cases hid
  exact listsLiving_decides.tasks_iff hsound (fun m hm => ⟨Task.seated hsound m hm, hplain m hm⟩)
    .empty hlists

/-- An instance is removed in capitals; its parent goes on listing it. -/
theorem listsLiving_iff_capitals :
    let host := (∅ : Host).addCoach (.ofId "b")
    let within (command coachId instanceId : String) : Task :=
      .evaluate ⟨0, .ofId "a", "q1", .builtin⟩
        (.call (.levels 0) command [.value (.string coachId), .value (.string instanceId)])
    let tasks : List Task :=
      [.obtain "a", within "createSubcoach" "b" "c", within "removeSubcoach" "B" "c"]
    let moments := Task.moments tasks ⟨∅, host, #[]⟩
    Task.Along Task.Sound ⟨∅, host, #[]⟩ tasks ∧ (∀ m ∈ moments, m.Plain) ∧
      ¬ (∀ m ∈ moments, m.after.contexts.ListsLiving) ∧
      ∃ m ∈ moments, m.after.contexts.keys = ["a"] ∧
        (m.after.contexts.get 0).sortedHandles.map (·.name) = ["a.b.c"] := by
  intro host within tasks moments
  have hsound : Task.Along Task.Sound ⟨∅, host, #[]⟩ tasks := by decide +kernel
  have hplain : ∀ m ∈ moments, m.Plain := by decide +kernel
  let last := moments.get ⟨1, by decide +kernel⟩
  have hlast : last ∈ moments := List.get_mem moments _
  have hids : Builtin.instanceIds last.dispatch.call last.dispatch.args = .ok ("B", "c") := rfl
  obtain ⟨hremove, hstored, hparent, hstores, htag, hkeys, hhandles⟩ :
      last.dispatch.command = .removeSubcoach ∧
        last.world.contexts.stored[instanceName
          (last.world.contexts.get last.dispatch.call.target).name "B" "c"]? = some 1 ∧
        last.world.contexts.parent? 1 = some 0 ∧ last.world.contexts.Stores 0 ∧
        (last.world.contexts.get 1).tag = some "b.c" ∧ last.after.contexts.keys = ["a"] ∧
        (last.after.contexts.get 0).sortedHandles.map (·.name) = ["a.b.c"] := by decide +kernel
  refine ⟨hsound, hplain, fun h => ?_, last, hlast, hkeys, hhandles⟩
  have hclean := (listsLiving_iff hsound hplain).mp h last hlast hremove "B" "c" hids
  have hspelling := (hclean 1 0 hstored hparent hstores).2
  exact absurd (htag.symm.trans hspelling) (by decide +kernel)

end CoachScript
