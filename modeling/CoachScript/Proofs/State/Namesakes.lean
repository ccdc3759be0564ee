import CoachScript.Proofs.State.Handles
import CoachScript.Proofs.Text.LetterCase

/-!
# Namesakes

The name of an instance joins three texts with dots, and the texts may have dots, too.

* `sameLetters_iff`: instances of one name below one parent have the same ids up to letter case if and
  only if the coach ids have equally many dots.
* `TreeChange.Growing`: coaches' contexts obtained, and instances created below stored contexts.
  `Contexts.Outgrows`: what such changes leave of a tree.
* **`Contexts.namesakes`**: which creations give the same context, and which give a coach's.
-/

namespace CoachScript

/-! ### Equal names -/

theorem toList_ids (parentName coachId instanceId : String) :
    (parentName ++ "." ++ instanceTag coachId instanceId).toList =
      parentName.toList ++ '.' :: (coachId.toList ++ '.' :: instanceId.toList) := by
  unfold instanceTag
  simp only [String.toList_append, List.append_assoc]
  rfl

/-- The letters of the name of an instance. -/
theorem foldCase_instanceName (parentName coachId instanceId : String) :
    foldCase (instanceName parentName coachId instanceId).toList =
      foldCase parentName.toList ++
        '.' :: (foldCase coachId.toList ++ '.' :: foldCase instanceId.toList) := by
  have hdot (text : List Char) : foldCase ('.' :: text) = '.' :: foldCase text := rfl
  unfold instanceName
  rw [foldCase_lowercase, toList_ids, foldCase_append, hdot, foldCase_append, hdot]

/-- **Instances of one name below one parent have the same ids up to letter case if and only if their
coach ids have equally many dots.** -/
theorem sameLetters_iff {parentName coachId coachId' instanceId instanceId' : String}
    (h : instanceName parentName coachId' instanceId' = instanceName parentName coachId instanceId) :
    (SameLetters coachId' coachId ∧ SameLetters instanceId' instanceId) ↔
      coachId'.toList.count '.' = coachId.toList.count '.' := by
  constructor
  · rintro ⟨hcoach, -⟩
    rw [← count_foldCase, ← count_foldCase coachId.toList, hcoach]
  · intro hcount
    have hletters := congrArg (fun name => foldCase name.toList) h
    rw [foldCase_instanceName, foldCase_instanceName, List.append_cancel_left_eq] at hletters
    refine append_dot_inj (List.cons.inj hletters).2 ?_
    rw [count_foldCase, count_foldCase, hcount]

/-- An instance has more dots than its coach's id, so it is not named like that. -/
theorem instanceName_ne_lowercase (parentName coachId instanceId : String) :
    instanceName parentName coachId instanceId ≠ lowercase coachId := by
  intro h
  have hdots := congrArg (fun name => name.toList.count '.') h
  unfold instanceName at hdots
  rw [count_dots_lowercase, count_dots_lowercase, toList_ids, List.count_append, List.count_cons_self,
    List.count_append, List.count_cons_self] at hdots
  omega

/-! ### Trees that only grow -/

/-- The change obtains a coach's context, or creates an instance below a stored context. -/
def TreeChange.Growing (cs : Contexts) : TreeChange → Prop
  | .obtain _ => True
  | .create parent _ _ _ => cs.Stores parent
  | .remove _ _ _ | .reset _ | .resetAll | .link _ _ => False

instance (cs : Contexts) : ∀ change : TreeChange, Decidable (change.Growing cs)
  | .obtain _ => .isTrue trivial
  | .create parent _ _ _ => inferInstanceAs (Decidable (cs.Stores parent))
  | .remove _ _ _ | .reset _ | .resetAll | .link _ _ => .isFalse id

/-- A context is a coach's if and only if it has the coach's name. -/
def CoachLabel : String × String × Option String → Prop := fun (coachId, name, tag?) =>
  tag? = none ↔ lowercase coachId = name

namespace Contexts

variable {cs ds es : Contexts} {parent child : ContextId} {coachId instanceId argument : String}
  {new : Bool}

/-- What is created or found is stored under the name of the instance. -/
theorem stored_of_createInstance
    (hds : cs.createInstance parent coachId instanceId argument = .ok (child, new, ds)) :
    ds.stored[instanceName (cs.get parent).name coachId instanceId]? = some child := by
  cases new with
  | true => rw [stored_createInstance hds, if_pos rfl, (createInstance_new hds).2.1]
  | false =>
    obtain ⟨hstored, rfl⟩ := createInstance_known_iff.mp hds
    exact hstored

/-- The tree stores all that the other does, under the same names, and tells coaches from instances. -/
structure Outgrows (cs ds : Contexts) : Prop where
  named : ds.Named
  labels : ds.AllLabels CoachLabel
  stored : ∀ (key : String) (id : ContextId), cs.stored[key]? = some id → ds.stored[key]? = some id

namespace Outgrows

theorem empty : Outgrows ∅ ∅ :=
  ⟨.empty, .empty (iff_of_true rfl rfl), fun _ _ h => h⟩

theorem refl (h : Outgrows cs ds) : Outgrows ds ds := ⟨h.named, h.labels, fun _ _ h => h⟩

variable (h : Outgrows cs ds)
include h

theorem trans (h' : Outgrows ds es) : Outgrows cs es :=
  ⟨h'.named, h'.labels, fun key id hid => h'.stored key id (h.stored key id hid)⟩

theorem obtain (coachId : String) : Outgrows cs (ds.obtain coachId).2 := by
  refine ⟨h.named.obtain coachId, h.labels.obtain (iff_of_true rfl rfl), fun key id hid => ?_⟩
  have hold := h.stored key id hid
  unfold Contexts.obtain
  cases hfind : ds.find? coachId with
  | some _ => exact hold
  | none =>
    dsimp only
    rw [stored_add, if_neg (ne_of_stored hfind hold)]
    exact hold

theorem createInstance (hparent : ds.Stores parent)
    (hes : ds.createInstance parent coachId instanceId argument = .ok (child, new, es)) :
    Outgrows cs es := by
  have hlt := h.named.lt_of_stores hparent
  cases new with
  | false => rwa [createInstance_known hes]
  | true =>
    have hlabel : CoachLabel (coachId, instanceName (ds.get parent).name coachId instanceId,
        some (instanceTag coachId instanceId)) :=
      iff_of_false nofun (instanceName_ne_lowercase _ _ _).symm
    have hfree : ds.stored[instanceName (ds.get parent).name coachId instanceId]? = none :=
      (createInstance_new hes).1
    refine ⟨h.named.createInstance hes, h.labels.createInstance hes hlt hlabel, fun key id hid => ?_⟩
    have hold := h.stored key id hid
    rw [stored_createInstance hes, if_neg (ne_of_stored hfree hold)]
    exact hold

theorem run {change : TreeChange} (hgrowing : change.Growing ds) : Outgrows cs (change.run ds) := by
  cases change with
  | obtain coachId => exact h.obtain coachId
  | create parent coachId instanceId argument =>
    rcases TreeChange.run_create ds parent coachId instanceId argument with hsame | ⟨child, hcreate⟩
    · rwa [hsame]
    · exact h.createInstance hgrowing hcreate
  | remove | reset | resetAll | link => exact hgrowing.elim

theorem after {changes : List TreeChange} (halong : TreeChange.Along TreeChange.Growing ds changes) :
    Outgrows cs (ds.after changes) :=
  after_keeps (P := Outgrows cs) (fun _ _ hgrowing h => h.run hgrowing) halong h

end Outgrows

/-- A stored context keeps its name. -/
theorem Outgrows.name_eq (h : Outgrows cs ds) {id : ContextId} (hid : cs.Stores id) :
    (ds.get id).name = (cs.get id).name := (h.named _ id (h.stored _ id hid)).2

/-- **Which creations give the same context.** In a tree of coaches' contexts and of instances created
below stored contexts, what is created or found is a coach's context if and only if the coach's id is, in
small letters, the name of the instance. What is created or found later below the same parent is the
same context if and only if it has the same name; then the ids are the same up to letter case if and only
if the coach ids have equally many dots. -/
theorem namesakes {changes since : List TreeChange} {parent child child' : ContextId}
    {coachId coachId' instanceId instanceId' argument argument' : String} {new new' : Bool}
    {ds es : Contexts} (hgrowing : TreeChange.Along TreeChange.Growing ∅ changes)
    (hparent : ((∅ : Contexts).after changes).Stores parent)
    (hds : ((∅ : Contexts).after changes).createInstance parent coachId instanceId argument =
      .ok (child, new, ds))
    (hsince : TreeChange.Along TreeChange.Growing ds since)
    (hes : (ds.after since).createInstance parent coachId' instanceId' argument' =
      .ok (child', new', es)) :
    let name := instanceName (((∅ : Contexts).after changes).get parent).name
    ((ds.get child).tag = none ↔ lowercase (ds.get child).coachId = name coachId instanceId) ∧
      (child' = child ↔ name coachId' instanceId' = name coachId instanceId) ∧
      (child' = child → (SameLetters coachId' coachId ∧ SameLetters instanceId' instanceId ↔
        coachId'.toList.count '.' = coachId.toList.count '.')) := by
  intro name
  have hgrown := ((Outgrows.empty.after hgrowing).refl).createInstance hparent hds
  have hlater := hgrown.refl.after hsince
  have hname := (hgrown.trans hlater).name_eq hparent
  have hstores : (ds.after since).Stores parent := by
    unfold Stores
    rw [hname]
    exact (hgrown.trans hlater).stored _ parent hparent
  have hlast := hlater.createInstance hstores hes
  have hchild := stored_of_createInstance hds
  have hstill := hlast.stored _ _ hchild
  have hchild' := stored_of_createInstance hes
  rw [hname] at hchild'
  have hsame : child' = child ↔ name coachId' instanceId' = name coachId instanceId := by
    constructor
    · rintro rfl
      exact hlast.named.key_unique hchild' hstill
    · intro heq
      rw [show instanceName _ coachId' instanceId' = _ from heq, hstill] at hchild'
      exact (Option.some_inj.mp hchild').symm
  refine ⟨?_, hsame, fun heq => sameLetters_iff (hsame.mp heq)⟩
  have hlabel : CoachLabel (ds.get child).label := hgrown.labels child
  rw [← show (ds.get child).name = name coachId instanceId from (hgrown.named _ child hchild).2]
  exact hlabel

/-- Two instances with dots in their ids share a context, and an instance has that of a coach. -/
theorem namesakes_dotted :
    let changes : List TreeChange := [.obtain "a", .obtain "A.b.e"]
    let cs := (∅ : Contexts).after changes
    let ds := (TreeChange.create 0 "b" "c.d" "").run cs
    TreeChange.Along TreeChange.Growing ∅ changes ∧ cs.Stores 0 ∧
      cs.createInstance 0 "b" "c.d" "" = .ok (2, true, ds) ∧
      ds.createInstance 0 "b.c" "d" "" = .ok (2, false, ds) ∧
      ¬ (SameLetters "b.c" "b" ∧ SameLetters "d" "c.d") ∧
      cs.createInstance 0 "b" "e" "" = .ok (1, false, cs) ∧ (cs.get 1).tag = none := by
  intro changes cs ds
  have hgrowing : TreeChange.Along TreeChange.Growing ∅ changes := by decide +kernel
  obtain ⟨hparent, hcs, hds, hchild, hcoach⟩ : cs.Stores 0 ∧ cs.made.size = 2 ∧ ds.made.size = 3 ∧
      ds.stored[instanceName (ds.get 0).name "b.c" "d"]? = some 2 ∧
      cs.stored[instanceName (cs.get 0).name "b" "e"]? = some 1 := by decide +kernel
  have hcreate : cs.createInstance 0 "b" "c.d" "" = .ok (2, true, ds) := by
    rcases TreeChange.run_create cs 0 "b" "c.d" "" with hsame | ⟨child, hnew⟩
    · have hsize : ds.made.size = cs.made.size := congrArg (·.made.size) hsame
      exact absurd (hds.symm.trans (hsize.trans hcs)) (by decide)
    · rwa [(createInstance_new hnew).2.1.trans hcs] at hnew
  have hfound : ds.createInstance 0 "b.c" "d" "" = .ok (2, false, ds) :=
    createInstance_known_iff.mpr ⟨hchild, rfl⟩
  have hmet : cs.createInstance 0 "b" "e" "" = .ok (1, false, cs) :=
    createInstance_known_iff.mpr ⟨hcoach, rfl⟩
  have hnone (cs : Contexts) : TreeChange.Along TreeChange.Growing cs [] := trivial
  have hletters := (namesakes hgrowing hparent hcreate (hnone ds)
    (by rw [after_nil]; exact hfound)).2.2 rfl
  have htag := (namesakes hgrowing hparent hmet (hnone cs) (by rw [after_nil]; exact hmet)).1
  refine ⟨hgrowing, hparent, hcreate, hfound, ?_, hmet, htag.mpr (by decide +kernel)⟩
  exact fun h => absurd (hletters.mp h) (by decide)

end Contexts

end CoachScript
