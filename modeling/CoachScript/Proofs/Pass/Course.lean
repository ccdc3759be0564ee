import CoachScript.Proofs.Eval.Rules
import Mathlib.Data.List.Sort

/-!
# The course of a pass

A pass tries every line, each in the world that the lines before it have left. What happens at each place
is said by rules, apart from the machinery that runs it.

* `Decides`, `Performs`, `Line.Takes`: what comes of a condition, of statements and of a line. **A line
  starts just if its condition holds and its name is free.**
* `Course`: what happens at each place of a listing. `Course.Follows`: it keeps to these rules;
  `Course.Free`: no line of the name has started before.
* `Course.Reports`: the count of the lines that have started, and the faults in line order, each once.
  `Course.Leaves`: the last world, and in the pass's context the names that are free no more.
* `firedBefore`: the names that have started, as a pass keeps them. `Course.Follows.run`: with them a pass
  keeps to any course that follows the rules.
* **`runLines_iff_course`**: what a pass reports and leaves is just what such a course does.
-/

namespace CoachScript

/-! ### The rules of a line -/

/-- What comes of a condition: its truth value or a fault, and the world after it. -/
inductive Decides (scene : Scene) (e : Expr) (w : World) : Except Fault Bool → World → Prop
  | decided {b : Bool} {w' : World} (h : Evaluates scene e w (.ok (.bool b)) w') :
    Decides scene e w (.ok b) w'
  /-- The value is no truth value. -/
  | undecided {v : Value} {w' : World} (h : Evaluates scene e w (.ok v) w') (hv : v.kind ≠ .bool) :
    Decides scene e w (.error (.notBoolean e.render v.kind)) w'
  | faulted {f : Fault} {w' : World} (h : Evaluates scene e w (.error f) w') :
    Decides scene e w (.error f) w'

/-- What comes of statements in turn: the fault of the first that faults, if there is one, and what it
and those before it leave. -/
inductive Performs (scene : Scene) : List Expr → World → Option Fault → World → Prop
  | done {w : World} : Performs scene [] w none w
  | faulted {e : Expr} {es : List Expr} {w w' : World} {f : Fault}
    (h : Evaluates scene e w (.error f) w') : Performs scene (e :: es) w (some f) w'
  | next {e : Expr} {es : List Expr} {w w' w'' : World} {v : Value} {fault? : Option Fault}
    (h : Evaluates scene e w (.ok v) w') (hmore : Performs scene es w' fault? w'') :
    Performs scene (e :: es) w fault? w''

/-- What becomes of a line, where its name is free or not: whether it starts its statements, its fault,
and the world after it. -/
inductive Line.Takes (scene : Scene) (line : Line) (free : Prop) (w : World) :
    Bool → Option Fault → World → Prop
  | faulted {f : Fault} {w' : World} (h : Decides scene line.condition w (.error f) w') :
    Takes scene line free w false (some f) w'
  | skipped {holds : Bool} {w' : World} (h : Decides scene line.condition w (.ok holds) w')
    (hnot : ¬ (holds = true ∧ free)) : Takes scene line free w false none w'
  | started {w' w'' : World} {fault? : Option Fault}
    (h : Decides scene line.condition w (.ok true) w') (hfree : free)
    (hstatements : Performs scene line.statements w' fault? w'') :
    Takes scene line free w true fault? w''

/-- The fault of an outcome. -/
def faultOf? {α : Type} : Except Fault α → Option Fault
  | .ok _ => none
  | .error f => some f

theorem decides_iff {scene : Scene} {e : Expr} {w w' : World} {r : Except Fault Bool} :
    Decides scene e w r w' ↔ evaluateTruth scene e w = (r, w') := by
  unfold evaluateTruth
  constructor
  · intro h
    cases h with
    | decided h =>
      rw [Action.bind_of_ok h.eq]
      rfl
    | @undecided v _ h hv =>
      rw [Action.bind_of_ok h.eq]
      cases v with
      | bool b => exact absurd rfl hv
      | _ => rfl
    | faulted h => exact Action.bind_of_error h.eq
  · intro h
    rcases hv : evaluate scene e w with ⟨f | v, w₁⟩
    · rw [Action.bind_of_error hv] at h
      cases h
      exact .faulted (evaluates_of_eq scene e w hv)
    · rw [Action.bind_of_ok hv] at h
      have hev := evaluates_of_eq scene e w hv
      cases v with
      | bool b =>
        cases h
        exact .decided hev
      | _ =>
        cases h
        exact .undecided hev nofun

theorem faultOf?_map {α β : Type} (x : Action α) (f : α → β) (w : World) :
    faultOf? (Action.bind x (fun a => .pure (f a)) w).1 = faultOf? (x w).1 := by
  unfold Action.bind
  rcases x w with ⟨e | a, w'⟩ <;> rfl

theorem performs_iff {scene : Scene} {es : List Expr} {w w' : World} {fault? : Option Fault} :
    Performs scene es w fault? w' ↔
      faultOf? (evaluateAll scene es w).1 = fault? ∧ (evaluateAll scene es w).2 = w' := by
  induction es generalizing w with
  | nil =>
    constructor
    · rintro ⟨⟩
      exact ⟨rfl, rfl⟩
    · rintro ⟨rfl, rfl⟩
      exact .done
  | cons e es ih =>
    unfold evaluateAll
    rcases hv : evaluate scene e w with ⟨f | v, w₁⟩
    · rw [Action.bind_of_error hv]
      constructor
      · rintro (_ | h | ⟨h, -⟩)
        · cases hv.symm.trans h.eq
          exact ⟨rfl, rfl⟩
        · cases hv.symm.trans h.eq
      · rintro ⟨rfl, rfl⟩
        exact .faulted (evaluates_of_eq scene e w hv)
    · rw [Action.bind_of_ok hv, faultOf?_map, world_map, ← ih]
      constructor
      · rintro (_ | h | ⟨h, hmore⟩)
        · cases hv.symm.trans h.eq
        · cases hv.symm.trans h.eq
          exact hmore
      · exact .next (evaluates_of_eq scene e w hv)

section RunLine

variable {scene : Scene} {fired : Fired} {line : Line} {w w₁ : World}

theorem runLine_faulted {f : Fault} (h : evaluateTruth scene line.condition w = (.error f, w₁)) :
    runLine scene fired line w = (.faulted false f, w₁) := by
  unfold runLine
  rw [h]

theorem runLine_skipped {holds : Bool} (h : evaluateTruth scene line.condition w = (.ok holds, w₁))
    (hnot : ¬ (holds = true ∧ fired.allows line.name)) :
    runLine scene fired line w = (.skipped, w₁) := by
  unfold runLine
  rw [h]
  dsimp only
  rw [if_neg fun hstart => hnot ((Bool.and_eq_true _ _).mp hstart)]

/-- A line that starts is left when its statements are done, or when one has faulted. -/
theorem runLine_started (h : evaluateTruth scene line.condition w = (.ok true, w₁))
    (hallows : fired.allows line.name) :
    (runLine scene fired line w).1.started = true ∧
      (runLine scene fired line w).1.fault? = faultOf? (evaluateAll scene line.statements w₁).1 ∧
      (runLine scene fired line w).2 = (evaluateAll scene line.statements w₁).2 := by
  unfold runLine
  rw [h]
  dsimp only
  rw [if_pos ((Bool.and_eq_true _ _).mpr ⟨rfl, hallows⟩)]
  rcases evaluateAll scene line.statements w₁ with ⟨f | vs, w₂⟩ <;> exact ⟨rfl, rfl, rfl⟩

/-- **A line is run by these rules**, its name being free as long as none of its name has fired. -/
theorem Line.takes_iff {free : Prop} (hfree : free ↔ fired.allows line.name) {w' : World}
    {started : Bool} {fault? : Option Fault} :
    line.Takes scene free w started fault? w' ↔
      (runLine scene fired line w).1.started = started ∧
        (runLine scene fired line w).1.fault? = fault? ∧ (runLine scene fired line w).2 = w' := by
  constructor
  · rintro (h | ⟨h, hnot⟩ | ⟨h, hstarts, hstatements⟩)
    · rw [runLine_faulted (decides_iff.mp h)]
      exact ⟨rfl, rfl, rfl⟩
    · rw [hfree] at hnot
      rw [runLine_skipped (decides_iff.mp h) hnot]
      exact ⟨rfl, rfl, rfl⟩
    · obtain ⟨hstarted, hfault, hworld⟩ := runLine_started (decides_iff.mp h) (hfree.mp hstarts)
      obtain ⟨rfl, rfl⟩ := performs_iff.mp hstatements
      exact ⟨hstarted, hfault, hworld⟩
  · rcases hc : evaluateTruth scene line.condition w with ⟨f | holds, w₁⟩
    · rw [runLine_faulted hc]
      rintro ⟨rfl, rfl, rfl⟩
      exact .faulted (decides_iff.mpr hc)
    by_cases hstart : holds = true ∧ fired.allows line.name
    · obtain ⟨rfl, hallows⟩ := hstart
      obtain ⟨hstarted, hfault, hworld⟩ := runLine_started hc hallows
      rw [hstarted, hfault, hworld]
      rintro ⟨rfl, hstatements⟩
      exact .started (decides_iff.mpr hc) (hfree.mpr hallows) (performs_iff.mpr hstatements)
    · rw [runLine_skipped hc hstart]
      rintro ⟨rfl, rfl, rfl⟩
      rw [← hfree] at hstart
      exact .skipped (decides_iff.mpr hc) hstart

end RunLine

/-! ### Courses -/

/-- What happens at each place of a listing. -/
structure Course where
  /-- The world before each line, and behind the last one. -/
  world : Nat → World
  /-- The line starts its statements. -/
  started : Nat → Bool
  fault? : Nat → Option Fault

namespace Course

/-- No line of the name has started before the place. A line without a name belongs to none. -/
def Free (c : Course) (lines : Listing) (i : Nat) (name : String) : Prop :=
  name = "" ∨ ∀ j < i, ∀ earlier : Line, lines[j]? = some earlier → c.started j → earlier.name ≠ name

/-- The course keeps to the rules: every line is taken in the world that the lines before it leave. -/
structure Follows (c : Course) (scene : Scene) (lines : Listing) (w : World) : Prop where
  begins : c.world 0 = w
  takes : ∀ (i : Nat) (line : Line), lines[i]? = some line →
    line.Takes scene (c.Free lines i line.name) (c.world i) (c.started i) (c.fault? i)
      (c.world (i + 1))

/-- The report counts the lines that have started, and has the faults of the course, each once and in
line order. -/
structure Reports (c : Course) (scene : Scene) (lines : Listing) (report : PassReport) : Prop where
  executed : report.executed = (List.range lines.length).countP c.started
  increasing : report.faults.Pairwise fun f g => f.index < g.index
  faults : ∀ f, f ∈ report.faults ↔ ∃ line, lines[f.index]? = some line ∧
    c.fault? f.index = some f.cause ∧ f.line = line.render ∧ f.question = scene.question

/-- The pass leaves the world behind the last line, and in its context the names that are free no more. -/
def Leaves (c : Course) (scene : Scene) (lines : Listing) (w' : World) : Prop :=
  ∃ fired : Fired, (∀ name, fired.has name ↔ ¬ c.Free lines lines.length name) ∧
    w' = (c.world lines.length).leave scene.active fired

/-- The fault at a place, as it is reported. -/
def faultAt? (c : Course) (scene : Scene) (lines : Listing) (i : Nat) : Option LineFault :=
  lines[i]?.bind fun line => (c.fault? i).map fun cause => ⟨scene.question, i, line.render, cause⟩

/-- The report on the lines before a place. -/
def report (c : Course) (scene : Scene) (lines : Listing) (k : Nat) : PassReport :=
  ⟨(List.range k).countP c.started, (List.range k).filterMap (c.faultAt? scene lines)⟩

variable (c : Course) (scene : Scene) (lines : Listing)

theorem faultAt?_eq_some_iff {i : Nat} {f : LineFault} :
    c.faultAt? scene lines i = some f ↔ i = f.index ∧ ∃ line, lines[f.index]? = some line ∧
      c.fault? f.index = some f.cause ∧ f.line = line.render ∧ f.question = scene.question := by
  unfold faultAt?
  rw [Option.bind_eq_some_iff]
  constructor
  · rintro ⟨line, hline, h⟩
    obtain ⟨cause, hcause, rfl⟩ := Option.map_eq_some_iff.mp h
    exact ⟨rfl, line, hline, hcause, rfl, rfl⟩
  · rintro ⟨rfl, line, hline, hcause, hrender, hquestion⟩
    refine ⟨line, hline, ?_⟩
    rw [hcause, ← hrender, ← hquestion]
    rfl

theorem increasing_report (k : Nat) :
    (c.report scene lines k).faults.Pairwise fun f g => f.index < g.index := by
  refine List.pairwise_filterMap.mpr (List.pairwise_lt_range.imp fun hlt f hf g hg => ?_)
  obtain ⟨rfl, -⟩ := (c.faultAt?_eq_some_iff scene lines).mp hf
  obtain ⟨rfl, -⟩ := (c.faultAt?_eq_some_iff scene lines).mp hg
  exact hlt

theorem mem_faults_report {f : LineFault} :
    f ∈ (c.report scene lines lines.length).faults ↔ ∃ line, lines[f.index]? = some line ∧
      c.fault? f.index = some f.cause ∧ f.line = line.render ∧ f.question = scene.question := by
  unfold report
  rw [List.mem_filterMap]
  simp only [faultAt?_eq_some_iff, List.mem_range]
  constructor
  · rintro ⟨_, -, -, h⟩
    exact h
  · rintro ⟨line, hline, h⟩
    exact ⟨f.index, (List.getElem?_eq_some_iff.mp hline).1, rfl, line, hline, h⟩

/-- **There is one report on a course.** -/
theorem reports_iff {r : PassReport} :
    c.Reports scene lines r ↔ r = c.report scene lines lines.length := by
  constructor
  · intro h
    have : Std.Antisymm fun f g : LineFault => f.index < g.index :=
      ⟨fun f g hlt hgt => absurd hgt (Nat.lt_asymm hlt)⟩
    have : Std.Irrefl fun f g : LineFault => f.index < g.index := ⟨fun f => Nat.lt_irrefl _⟩
    have hfaults := h.increasing.eq_of_mem_iff (c.increasing_report scene lines lines.length) fun f =>
      (h.faults f).trans (c.mem_faults_report scene lines).symm
    obtain ⟨executed, faults⟩ := r
    obtain rfl : faults = _ := hfaults
    obtain rfl : executed = _ := h.executed
    rfl
  · rintro rfl
    exact ⟨rfl, c.increasing_report scene lines _, fun f => c.mem_faults_report scene lines⟩

/-- One line more, one line of the report more. -/
theorem report_succ {k : Nat} {line : Line} (hline : lines[k]? = some line) {outcome : LineOutcome}
    (hstarted : outcome.started = c.started k) (hfault : outcome.fault? = c.fault? k) :
    c.report scene lines (k + 1) =
      (c.report scene lines k).append (lineReport scene k line outcome) := by
  have hexecuted : [k].countP c.started = outcome.started.toNat := by
    rw [hstarted, List.countP_singleton]
    cases c.started k <;> rfl
  have hfaults : [k].filterMap (c.faultAt? scene lines) =
      outcome.fault?.toList.map fun cause => ⟨scene.question, k, line.render, cause⟩ := by
    unfold faultAt?
    rw [hfault, List.filterMap_cons, hline]
    cases c.fault? k <;> rfl
  unfold report PassReport.append lineReport
  rw [List.range_succ, List.countP_append, List.filterMap_append, hexecuted, hfaults]

end Course

/-! ### The names that have started -/

theorem Fired.ext_has {fired fired' : Fired} (h : ∀ name, fired.has name ↔ fired'.has name) :
    fired = fired' := by
  obtain ⟨names⟩ := fired
  obtain ⟨names'⟩ := fired'
  congr 1
  exact Std.ExtTreeSet.ext_contains fun {name} => Bool.eq_iff_iff.mpr (h name)

theorem PassReport.append_assoc (r s t : PassReport) :
    (r.append s).append t = r.append (s.append t) := by
  unfold append
  rw [Nat.add_assoc, List.append_assoc]

/-- Lines run on from where those before them have stopped, with the names that these have started. -/
theorem runFrom_append (scene : Scene) (index : Nat) (fired : Fired) (lines more : Listing)
    (w : World) :
    runFrom scene index fired (lines ++ more) w =
      let (report, fired', w') := runFrom scene index fired lines w
      let (report', fired', w') := runFrom scene (index + lines.length) fired' more w'
      (report.append report', fired', w') := by
  induction lines generalizing index fired w with
  | nil =>
    have hempty (r : PassReport) : PassReport.empty.append r = r := by
      unfold PassReport.empty PassReport.append
      rw [Nat.zero_add, List.nil_append]
    unfold runFrom
    dsimp only [List.nil_append, List.length_nil, Nat.add_zero]
    rw [hempty]
  | cons line lines ih =>
    rw [List.cons_append, runFrom.eq_def, runFrom.eq_def scene index fired (line :: lines)]
    dsimp only
    rw [ih, PassReport.append_assoc, List.length_cons, Nat.add_right_comm, Nat.add_assoc]

theorem Fired.allows_empty (name : String) : (∅ : Fired).allows name := by
  have hhas : (∅ : Fired).has name = false := Std.ExtTreeSet.contains_empty
  unfold allows
  rw [hhas]
  exact Bool.or_true _

theorem Fired.allows_fire (fired : Fired) (name other : String) :
    (fired.fire name).allows other ↔ fired.allows other ∧ (other = "" ∨ name ≠ other) := by
  unfold fire
  by_cases hname : name = ""
  · rw [if_pos (String.isEmpty_iff.mpr hname), hname]
    exact (and_iff_left ((em _).imp_right Ne.symm)).symm
  · have hhas : (Fired.mk (fired.names.insert name)).has other ↔ name = other ∨ fired.has other := by
      unfold has
      rw [Std.ExtTreeSet.contains_insert, Bool.or_eq_true, beq_iff_eq,
        Std.LawfulEqCmp.compare_eq_iff_eq]
    rw [if_neg (mt String.isEmpty_iff.mp hname)]
    unfold allows
    simp only [Bool.or_eq_true, String.isEmpty_iff, Bool.not_eq_true', ← Bool.not_eq_true, hhas]
    tauto

/-- A line without a name counts under none. -/
theorem Fired.has_fire_empty (fired : Fired) (name : String) : (fired.fire name).has "" = fired.has "" := by
  unfold fire
  split_ifs with hname
  · rfl
  · have hne : name ≠ "" := mt String.isEmpty_iff.mpr hname
    unfold has
    rw [Std.ExtTreeSet.contains_insert, Bool.or_eq_right_iff_imp.mpr fun h => ?_]
    exact absurd (Std.LawfulEqCmp.compare_eq_iff_eq.mp (beq_iff_eq.mp h)) hne

section Before

variable (scene : Scene) (lines : Listing) (w : World)

/-- The names that have started before a place of the listing. -/
def firedBefore (i : Nat) : Fired := passFired scene (lines.take i) w

/-- The world before a place of the listing. -/
def worldBefore (i : Nat) : World := (runFrom scene 0 ∅ (lines.take i) w).2.2

/-- What becomes of a line at a place of the listing. -/
def outcomeAt (i : Nat) (line : Line) : LineOutcome :=
  (runLine scene (firedBefore scene lines w i) line (worldBefore scene lines w i)).1

variable {scene lines w} {k : Nat} {line : Line} (hline : lines[k]? = some line)
include hline

theorem take_succ_eq : lines.take (k + 1) = lines.take k ++ [line] := by
  rw [List.take_add_one, hline]
  rfl

theorem runFrom_take_succ :
    runFrom scene 0 ∅ (lines.take (k + 1)) w =
      ((runFrom scene 0 ∅ (lines.take k) w).1.append
          (lineReport scene k line (outcomeAt scene lines w k line)),
        if (outcomeAt scene lines w k line).started then (firedBefore scene lines w k).fire line.name
          else firedBefore scene lines w k,
        (runLine scene (firedBefore scene lines w k) line (worldBefore scene lines w k)).2) := by
  have hk : k < lines.length := (List.getElem?_eq_some_iff.mp hline).1
  have hindex : 0 + (lines.take k).length = k := by
    rw [List.length_take, Nat.min_eq_left hk.le, Nat.zero_add]
  have hone (report : PassReport) : report.append .empty = report := by
    unfold PassReport.append PassReport.empty
    rw [Nat.add_zero, List.append_nil]
  have hlast (fired : Fired) (v : World) : runFrom scene k fired [line] v =
      ((lineReport scene k line (runLine scene fired line v).1).append .empty,
        if (runLine scene fired line v).1.started then fired.fire line.name else fired,
        (runLine scene fired line v).2) := rfl
  rw [take_succ_eq hline, runFrom_append, hindex]
  dsimp only
  rw [hlast, hone]
  rfl

theorem firedBefore_succ :
    firedBefore scene lines w (k + 1) =
      if (outcomeAt scene lines w k line).started then (firedBefore scene lines w k).fire line.name
      else firedBefore scene lines w k :=
  congrArg (fun r => r.2.1) (runFrom_take_succ hline)

end Before

/-! ### The course of a pass -/

namespace Course

/-- The name is free behind a line if it was free before it, and the line has not started under it. -/
theorem free_succ (c : Course) (lines : Listing) (k : Nat) (name : String) :
    c.Free lines (k + 1) name ↔ c.Free lines k name ∧
      ∀ line : Line, lines[k]? = some line → c.started k → name = "" ∨ line.name ≠ name := by
  unfold Free
  constructor
  · rintro (hname | hfree)
    · exact ⟨.inl hname, fun _ _ _ => .inl hname⟩
    · exact ⟨.inr fun j hj => hfree j (Nat.lt_succ_of_lt hj), fun line hline hstarted =>
        .inr (hfree k (Nat.lt_succ_self k) line hline hstarted)⟩
  · rintro ⟨hname | hfree, hlast⟩
    · exact .inl hname
    · by_cases hname : name = ""
      · exact .inl hname
      · refine .inr fun j hj line hline hstarted => ?_
        rcases Nat.lt_succ_iff_lt_or_eq.mp hj with hlt | rfl
        · exact hfree j hlt line hline hstarted
        · exact (hlast line hline hstarted).resolve_left hname

/-- The names that a pass has counted as started are those of the lines that have. -/
theorem free_iff {c : Course} {scene : Scene} {lines : Listing} {w : World} {k : Nat}
    (h : ∀ i < k, ∀ line, lines[i]? = some line →
      (outcomeAt scene lines w i line).started = c.started i) (name : String) :
    c.Free lines k name ↔ (firedBefore scene lines w k).allows name := by
  induction k with
  | zero =>
    have hempty : (firedBefore scene lines w 0).allows name = true := Fired.allows_empty name
    exact ⟨fun _ => hempty, fun _ => .inr fun j hj => absurd hj (Nat.not_lt_zero j)⟩
  | succ k ih =>
    have hbefore := ih fun i hi => h i (Nat.lt_succ_of_lt hi)
    cases hline : lines[k]? with
    | none =>
      have hsame : firedBefore scene lines w (k + 1) = firedBefore scene lines w k := by
        unfold firedBefore
        rw [List.take_add_one, hline, Option.toList_none, List.append_nil]
      rw [hsame, ← hbefore, free_succ]
      exact and_iff_left fun line hline' => by
        rw [hline] at hline'
        cases hline'
    | some line =>
      rw [firedBefore_succ hline, h k (Nat.lt_succ_self k) line hline, free_succ, hbefore]
      split_ifs with hstarted
      · rw [Fired.allows_fire]
        refine and_congr_right' ⟨fun hfree => ?_, fun hfree line' hline' _ => ?_⟩
        · exact hfree line hline hstarted
        · cases hline.symm.trans hline'
          exact hfree
      · exact and_iff_left fun line' hline' hstarted' => absurd hstarted' hstarted

/-- **A pass keeps to any course that follows the rules**, line by line. -/
theorem Follows.run {c : Course} {scene : Scene} {lines : Listing} {w : World}
    (h : c.Follows scene lines w) {k : Nat} (hk : k ≤ lines.length) :
    runFrom scene 0 ∅ (lines.take k) w =
        (c.report scene lines k, firedBefore scene lines w k, c.world k) ∧
      ∀ i < k, ∀ line, lines[i]? = some line →
        (outcomeAt scene lines w i line).started = c.started i := by
  induction k with
  | zero =>
    rw [h.begins]
    exact ⟨rfl, fun i hi => absurd hi (Nat.not_lt_zero i)⟩
  | succ k ih =>
    obtain ⟨hrun, hstarts⟩ := ih (Nat.le_of_succ_le hk)
    have hline : lines[k]? = some lines[k] := List.getElem?_eq_getElem hk
    have hworld : worldBefore scene lines w k = c.world k := congrArg (fun r => r.2.2) hrun
    have htakes := h.takes k lines[k] hline
    rw [← hworld, Line.takes_iff (free_iff hstarts lines[k].name)] at htakes
    obtain ⟨hstarted, hfault, hnext⟩ := htakes
    refine ⟨?_, fun i hi line hi' => ?_⟩
    · rw [firedBefore_succ hline, runFrom_take_succ hline, hrun, hnext,
        c.report_succ scene lines hline hstarted hfault]
      rfl
    · rcases Nat.lt_succ_iff_lt_or_eq.mp hi with hlt | rfl
      · exact hstarts i hlt line hi'
      · cases hline.symm.trans hi'
        exact hstarted

/-- The course that a pass takes. -/
def ofPass (scene : Scene) (lines : Listing) (w : World) : Course where
  world := worldBefore scene lines w
  started i := lines[i]?.any fun line => (outcomeAt scene lines w i line).started
  fault? i := lines[i]?.bind fun line => (outcomeAt scene lines w i line).fault?

section OfPass

variable {scene : Scene} {lines : Listing} {w : World} {i : Nat} {line : Line}
  (hline : lines[i]? = some line)
include hline

theorem started_ofPass :
    (ofPass scene lines w).started i = (outcomeAt scene lines w i line).started := by
  unfold ofPass
  dsimp only
  rw [hline, Option.any_some]

theorem fault?_ofPass :
    (ofPass scene lines w).fault? i = (outcomeAt scene lines w i line).fault? := by
  unfold ofPass
  dsimp only
  rw [hline, Option.bind_some]

theorem world_ofPass_succ :
    (ofPass scene lines w).world (i + 1) =
      (runLine scene (firedBefore scene lines w i) line (worldBefore scene lines w i)).2 :=
  congrArg (fun r => r.2.2) (runFrom_take_succ hline)

end OfPass

theorem follows_ofPass (scene : Scene) (lines : Listing) (w : World) :
    (ofPass scene lines w).Follows scene lines w where
  begins := rfl
  takes i line hline := by
    have hfree : (ofPass scene lines w).Free lines i line.name ↔
        (firedBefore scene lines w i).allows line.name :=
      free_iff (fun j _ earlier hearlier => (started_ofPass hearlier).symm) line.name
    exact (Line.takes_iff hfree).mpr
      ⟨(started_ofPass hline).symm, (fault?_ofPass hline).symm, (world_ofPass_succ hline).symm⟩

end Course

/-- The names that have started are those that are free no more. -/
theorem Course.Follows.has_iff {c : Course} {scene : Scene} {lines : Listing} {w : World}
    (h : c.Follows scene lines w) (name : String) :
    (firedBefore scene lines w lines.length).has name ↔ ¬ c.Free lines lines.length name := by
  have hempty (k : Nat) : (firedBefore scene lines w k).has "" = false := by
    induction k with
    | zero => exact Std.ExtTreeSet.contains_empty
    | succ k ih =>
      cases hline : lines[k]? with
      | none =>
        unfold firedBefore at ih ⊢
        rwa [List.take_add_one, hline, Option.toList_none, List.append_nil]
      | some line =>
        rw [firedBefore_succ hline]
        split_ifs
        · rwa [Fired.has_fire_empty]
        · exact ih
  rw [Course.free_iff (h.run (Nat.le_refl _)).2]
  unfold Fired.allows
  by_cases hname : name = ""
  · rw [hname, hempty]
    simp
  · rw [Bool.eq_false_iff.mpr (mt String.isEmpty_iff.mp hname)]
    simp

/-- What a pass reports and leaves is what a course does that follows the rules. -/
theorem runLines_eq_iff (scene : Scene) (lines : Listing) (w w' : World) (report : PassReport) :
    runLines scene lines w = (report, w') ↔
      ∃ c : Course, c.Follows scene lines w ∧ c.Reports scene lines report ∧
        c.Leaves scene lines w' := by
  have hrun {c : Course} (h : c.Follows scene lines w) :
      runLines scene lines w = (c.report scene lines lines.length,
        (c.world lines.length).leave scene.active (firedBefore scene lines w lines.length)) := by
    have hall := (h.run (Nat.le_refl _)).1
    rw [List.take_length] at hall
    unfold runLines
    rw [hall]
  constructor
  · intro h
    have hfollows := Course.follows_ofPass scene lines w
    obtain ⟨rfl, rfl⟩ := Prod.mk.inj ((hrun hfollows).symm.trans h)
    exact ⟨_, hfollows, (Course.reports_iff ..).mpr rfl, _, hfollows.has_iff, rfl⟩
  · rintro ⟨c, hfollows, hreports, fired, hfired, rfl⟩
    have hsame : fired = firedBefore scene lines w lines.length :=
      Fired.ext_has fun name => (hfired name).trans (hfollows.has_iff name).symm
    rw [hrun hfollows, (Course.reports_iff ..).mp hreports, hsame]

/-- **The first of a name wins, and no fault stops a pass.** A pass, and an evaluation anew once it has
taken back what came before, reports and leaves just what a course does that takes every line by the
rules: in the world that the lines before it have left, starting it if its condition holds and its name is
free, and counting it as started though it faults. -/
theorem runLines_iff_course (scene : Scene) (lines : Listing) :
    (∀ (w w' : World) (report : PassReport), runLines scene lines w = (report, w') ↔
      ∃ c : Course, c.Follows scene lines w ∧ c.Reports scene lines report ∧
        c.Leaves scene lines w') ∧
    ∀ (keep : String) (w w' : World) (report : PassReport),
      runQuestion scene keep lines w = (report, w') ↔
        ∃ c : Course, c.Follows scene lines (w.revert scene keep) ∧ c.Reports scene lines report ∧
          c.Leaves scene lines w' :=
  ⟨runLines_eq_iff scene lines, fun keep w => runLines_eq_iff scene lines (w.revert scene keep)⟩

end CoachScript
