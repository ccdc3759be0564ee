import CoachScript.Builtin.Merit
import CoachScript.Proofs.Decimal
import CoachScript.Proofs.State.Writes
import Mathlib.Order.Bounds.Basic

/-!
# Scores add up the contributions that last

* `ScoreChange`: one change of the scores of a context, and what it makes of them.
* `Scores.live`: the contributions to a name that no later change of a history takes back, in order.
* `ScoreEntry.IsTotal`: a number is the sum of the values among contributions, or the smallest cap if
  that is less. It does not matter in which order the contributions are listed (`IsTotal.of_perm`).
* **`Scores.tallies`**: the value of a score is the total of its live contributions.
-/

namespace CoachScript

/-! ### Totals -/

/-- The sum of the values among contributions. -/
def ScoreEntry.sumOf (entries : List ScoreEntry) : ℚ :=
  ((entries.filterMap ScoreEntry.value?).map Decimal.toRat).sum

/-- The number is the least of the caps and the sum of the values. -/
def ScoreEntry.IsTotal (entries : List ScoreEntry) (d : Decimal) : Prop :=
  IsLeast (insert (sumOf entries) {r | ∃ cap, .cap cap ∈ entries ∧ cap.toRat = r}) d.toRat

theorem ScoreEntry.IsTotal.of_perm {entries others : List ScoreEntry} {d : Decimal}
    (h : entries.Perm others) (htotal : IsTotal entries d) : IsTotal others d := by
  have hsum : sumOf entries = sumOf others := ((h.filterMap value?).map Decimal.toRat).sum_eq
  have hcaps : ∀ cap, .cap cap ∈ entries ↔ .cap cap ∈ others := fun cap => h.mem_iff
  unfold IsTotal at htotal ⊢
  simpa only [hsum, hcaps] using htotal

theorem ScoreEntry.cap?_eq_some_iff {entry : ScoreEntry} {d : Decimal} :
    entry.cap? = some d ↔ entry = .cap d := by
  cases entry <;> simp [cap?]

namespace Score

theorem limit?_eq_none_iff {s : Score} :
    s.limit? = none ↔ s.entries.filterMap (·.2.cap?) = [] := by
  unfold limit?
  cases s.entries.filterMap (·.2.cap?) <;> simp

theorem mem_caps {s : Score} {d : Decimal} :
    d ∈ s.entries.filterMap (·.2.cap?) ↔ .cap d ∈ s.entries.map (·.2) := by
  simp [ScoreEntry.cap?_eq_some_iff]

/-- The limit of a score is the least of its caps. -/
theorem isLeast_limit {s : Score} {cap : Decimal} (h : s.limit? = some cap) :
    IsLeast {r | ∃ cap, .cap cap ∈ s.entries.map (·.2) ∧ cap.toRat = r} cap.toRat := by
  obtain ⟨hmem, hleast⟩ := (limit?_eq_some_iff s cap).mp h
  refine ⟨⟨cap, mem_caps.mp hmem, rfl⟩, ?_⟩
  rintro r ⟨other, hother, rfl⟩
  exact hleast other (mem_caps.mpr hother)

/-- The visible value of a score is the total of its contributions. -/
theorem isTotal_total (s : Score) : ScoreEntry.IsTotal (s.entries.map (·.2)) s.total := by
  have hsum : ScoreEntry.sumOf (s.entries.map (·.2)) = s.sum.toRat := by
    unfold sum ScoreEntry.sumOf
    rw [Decimal.toRat_sum, List.filterMap_map]
    rfl
  unfold ScoreEntry.IsTotal
  rw [hsum]
  cases hlimit : s.limit? with
  | none =>
    have htotal : s.total = s.sum := by rw [total, hlimit]
    have hcaps : {r | ∃ cap, .cap cap ∈ s.entries.map (·.2) ∧ cap.toRat = r} = ∅ := by
      simp [← mem_caps, limit?_eq_none_iff.mp hlimit]
    rw [htotal, hcaps, insert_empty_eq]
    exact isLeast_singleton
  | some cap =>
    have htotal : s.total = s.sum.min cap := by rw [total, hlimit, Decimal.min]
    rw [htotal, Decimal.toRat_min]
    exact (isLeast_limit hlimit).insert s.sum.toRat

theorem hasSource_iff {s : Score} {source : String} :
    s.hasSource source ↔ s.ofSource source ≠ [] := by
  simp [hasSource, ofSource, List.filter_eq_nil_iff]

/-- Taking back one source's contributions leaves those of all others. -/
theorem ofSource_without (s : Score) (source other : String) :
    (s.without source).ofSource other = if other = source then [] else s.ofSource other := by
  unfold ofSource without
  rw [List.filter_filter]
  split_ifs with h
  · subst h
    simp
  · congr 1
    refine List.filter_congr fun entry _ => ?_
    by_cases hentry : entry.1 = other
    · simp [hentry, h]
    · simp [hentry]

end Score

/-- Who contributes is told the value that the score has with the contribution. -/
theorem Builtin.value_contribute {call : Call} {w : World}
    (h : call.target < w.contexts.made.size) (name : String) (entry : ScoreEntry) :
    (contribute call name entry w).1 =
      .ok (((call.context w).scores.push name (call.source w) entry).value name).toValue := by
  let push (c : Context) : Context := { c with scores := c.scores.push name (call.source w) entry }
  have hget : call.context (w.modify call.target push) = push (call.context w) :=
    (w.contexts.get_modify call.target call.target push).trans (if_pos ⟨rfl, h⟩)
  show Except.ok ((call.context (w.modify call.target push)).scores.value name).toValue = _
  rw [hget]

/-! ### Changes -/

/-- One change of scores. -/
inductive ScoreChange where
  | push (name source : String) (entry : ScoreEntry)
  | revert (source : String)
  | clear

namespace ScoreChange

/-- What a change makes of scores. -/
def run (ss : Scores) : ScoreChange → Scores
  | .push name source entry => ss.push name source entry
  | .revert source => ss.revert source
  | .clear => ∅

/-- The contribution that a change adds to a name. -/
def adds (name : String) : ScoreChange → Option (String × ScoreEntry)
  | .push other source entry => if other = name then some (source, entry) else none
  | .revert _ | .clear => none

/-- The change takes back an earlier contribution. -/
def undoes : ScoreChange → String × ScoreEntry → Bool
  | .push _ _ _, _ => false
  | .revert source, contribution => contribution.1 == source
  | .clear, _ => true

end ScoreChange

namespace Scores

/-- Scores after changes, one after another, from none. -/
def after (history : List ScoreChange) : Scores := history.foldl ScoreChange.run ∅

/-- The contributions to a name since the last revert of their source and the last time that the
scores were cleared, in order. -/
def live (history : List ScoreChange) (name : String) : List (String × ScoreEntry) :=
  lasting (ScoreChange.adds name) ScoreChange.undoes history

theorem after_concat (history : List ScoreChange) (change : ScoreChange) :
    after (history ++ [change]) = change.run (after history) := by
  unfold after
  rw [List.foldl_append]
  rfl

/-- A change takes away the contributions that it undoes, and puts what it adds behind the rest. -/
theorem entries_run (ss : Scores) (name : String) (change : ScoreChange) :
    ((change.run ss).lookup name).entries =
      (ss.lookup name).entries.filter (!change.undoes ·) ++ (change.adds name).toList := by
  cases change with
  | push other source entry =>
    rw [ScoreChange.run, lookup_push]
    by_cases h : other = name
    · subst h
      simp [ScoreChange.undoes, ScoreChange.adds, Score.push]
    · simp [ScoreChange.undoes, ScoreChange.adds, h]
  | revert source =>
    rw [ScoreChange.run, lookup_revert]
    simp [ScoreChange.undoes, ScoreChange.adds, Score.without, bne]
  | clear =>
    have hnone : (∅ : Scores).lookup name = .empty := rfl
    simp [ScoreChange.run, ScoreChange.undoes, ScoreChange.adds, hnone, Score.empty]

/-- **After a history, a score holds the live contributions to its name.** -/
theorem lookup_after (history : List ScoreChange) (name : String) :
    (after history).lookup name = ⟨live history name⟩ := by
  have hentries : ((after history).lookup name).entries = live history name :=
    lasting_of_step (fun ss => (ss.lookup name).entries) (fun ss => entries_run ss name) rfl history
  rw [← hentries]

/-- A revert counts the names to which the source has contributed. -/
theorem length_contributed (ss : Scores) (source : String) :
    (ss.contributed source).length = {name | (ss.lookup name).ofSource source ≠ []}.ncard := by
  unfold contributed
  rw [ByName.length_filter]
  congr 1
  ext name
  have hempty : Score.empty.ofSource source = [] := rfl
  simp only [Set.mem_ofPred_eq, Score.hasSource_iff]
  unfold lookup
  cases ss.table[name]? <;> simp [hempty]

/-- **The value of a score is the total of its live contributions**, in whatever order they are listed,
and zero if there are none. Who contributes is told the new value. A revert leaves the contributions of
all other sources, and counts the names to which the source had contributed. -/
theorem tallies (history : List ScoreChange) (name : String) :
    let ss := after history
    (∀ entries : List ScoreEntry, entries.Perm ((live history name).map (·.2)) →
      ScoreEntry.IsTotal entries (ss.value name)) ∧
    (live history name = [] → ss.value name = .zero) ∧
    (∀ (call : Call) (entry : ScoreEntry) (w : World), call.target < w.contexts.made.size →
      (call.context w).scores = ss → (Builtin.contribute call name entry w).1 =
        .ok ((after (history ++ [.push name (call.source w) entry])).value name).toValue) ∧
    (∀ source other, other ≠ source →
      ((ss.revert source).lookup name).ofSource other = (ss.lookup name).ofSource other) ∧
    ∀ source, ((ss.revert source).lookup name).ofSource source = [] ∧
      (ss.contributed source).length = {other | (ss.lookup other).ofSource source ≠ []}.ncard := by
  intro ss
  have hlookup : ss.lookup name = ⟨live history name⟩ := lookup_after history name
  have hvalue : ss.value name = (ss.lookup name).total := rfl
  refine ⟨?_, ?_, ?_, ?_, ?_⟩
  · intro entries hperm
    rw [hvalue, hlookup]
    exact (Score.isTotal_total ⟨live history name⟩).of_perm hperm.symm
  · intro hnone
    rw [hvalue, hlookup, hnone]
    rfl
  · intro call entry w htarget hscores
    rw [Builtin.value_contribute htarget, hscores, after_concat]
    rfl
  · intro source other hother
    rw [lookup_revert, Score.ofSource_without, if_neg hother]
  · intro source
    refine ⟨?_, ss.length_contributed source⟩
    rw [lookup_revert, Score.ofSource_without, if_pos rfl]

/-- A cap that is taken back limits no more; a later value of the same source counts. -/
theorem tallies_uncapped :
    let history : List ScoreChange := [.push "s" "q1" (.value (.ofInt 5)),
      .push "s" "q2" (.cap (.ofInt 3)), .revert "q2", .push "s" "q2" (.value (.ofInt (-1)))]
    let w : World := ⟨((∅ : Contexts).obtain "a").2, ∅, #[]⟩
    let call : Call := ⟨"capScore", ⟨0, .ofId "a", "q2", .builtin⟩, 0⟩
    ScoreEntry.IsTotal [.value (.ofInt (-1)), .value (.ofInt 5)] ((after history).value "s") ∧
      (after history).value "t" = .zero ∧
      (Builtin.contribute call "s" (.cap (.ofInt 2)) (w.modify 0 fun c =>
        { c with scores := after history })).1 =
        .ok ((after (history ++ [.push "s" "q2" (.cap (.ofInt 2))])).value "s").toValue ∧
      (((after history).revert "q2").lookup "s").ofSource "q1" = [.value (.ofInt 5)] := by
  intro history w call
  obtain ⟨htotal, -, hnew, hothers, -⟩ := tallies history "s"
  obtain ⟨-, hzero, -⟩ := tallies history "t"
  refine ⟨htotal _ (by decide +kernel), hzero (by decide +kernel), ?_, ?_⟩
  · exact hnew call _ _ (by decide +kernel) (by decide +kernel)
  · rw [hothers "q2" "q1" (by decide)]
    decide +kernel

end Scores

end CoachScript
