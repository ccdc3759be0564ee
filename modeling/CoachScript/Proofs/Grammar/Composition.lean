import CoachScript.Host.Coach
import CoachScript.Proofs.Grammar.Boundary
import CoachScript.Proofs.Grammar.Rendering

/-!
# Listings put together

* `spells_of_readListing`: a text that is read on its own is scanned as the tokens of its derivation,
  in front of any text that seals it.
* `readListing_newline`: texts with a line feed between them are read as their lines, one after
  another; `readListing_joinWith` is the same of any number of texts.
* **`Coach.readListing_compose`**: so is what a coach puts together for a question.
-/

namespace CoachScript

theorem ScriptTree.tokens_append (s s' : ScriptTree) :
    ScriptTree.tokens (s ++ s') = s.tokens ++ s'.tokens := List.flatMap_append

theorem ScriptTree.lines_append (s s' : ScriptTree) :
    ScriptTree.lines (s ++ s') = s.lines ++ s'.lines := by
  simp [lines]

/-! ### Two texts -/

/-- What is read on its own keeps its derivation in front of a text that seals it. -/
theorem spells_of_readListing {source : String} {ls : Listing} (h : readListing source = .ok ls) :
    ∃ s : ScriptTree, s.lines = ls ∧ ∀ more, Seals more → Spells source.toList s.tokens more := by
  obtain ⟨hrest, s, hs, hlines⟩ := readListing_iff_scan.mp h
  refine ⟨s, hlines, fun more hmore => ?_⟩
  rw [hs]
  exact spells_of_scan hmore Position.start source.toList hrest

/-- **Texts with a line feed between them are read as their lines, one after another.** -/
theorem readListing_newline {first second : String} {ls ls' : Listing}
    (h : readListing first = .ok ls) (h' : readListing second = .ok ls') :
    readListing (first ++ "\n" ++ second) = .ok (ls ++ ls') := by
  obtain ⟨s, rfl, hfirst⟩ := spells_of_readListing h
  obtain ⟨s', rfl, hsecond⟩ := spells_of_readListing h'
  have hspells := ((hfirst _ (seals_newline (second.toList ++ []))).append spells_newline).append
    (hsecond [] seals_nil)
  rw [← ScriptTree.lines_append]
  apply readListing_of_spells
  rw [ScriptTree.tokens_append, String.toList_append, String.toList_append]
  simpa using hspells

/-! ### Any number of texts -/

theorem joinWith_cons {sep : List Char} (piece : List Char) {more : List (List Char)}
    (h : more ≠ []) : joinWith sep (piece :: more) = piece ++ sep ++ joinWith sep more := by
  cases more with
  | nil => exact absurd rfl h
  | cons next more => rfl

theorem readListing_joinWith (parts : List (String × Listing))
    (h : ∀ part ∈ parts, readListing part.1 = .ok part.2) :
    readListing (String.ofList (joinWith ['\n'] (parts.map (·.1.toList)))) =
      .ok (parts.flatMap (·.2)) := by
  induction parts with
  | nil => exact readListing_of_spells (s := []) .nil
  | cons part more ih =>
    have hpart := h part List.mem_cons_self
    have hmore := ih fun other hother => h other (List.mem_cons_of_mem part hother)
    by_cases hnil : more = []
    · subst hnil
      simpa [joinWith] using hpart
    · have hboth := readListing_newline hpart hmore
      have hjoin : String.ofList (joinWith ['\n'] ((part :: more).map (·.1.toList))) =
          part.1 ++ "\n" ++ String.ofList (joinWith ['\n'] (more.map (·.1.toList))) := by
        rw [List.map_cons, joinWith_cons _ (by simpa using hnil)]
        apply String.toList_inj.mp
        simp
      rw [hjoin, List.flatMap_cons]
      exact hboth

/-! ### The logic of a question -/

namespace Coach

/-- The lines that a part of a question's logic contributes: none if it is blank, else those that it
is read as on its own. -/
def Contributes (part : String) (ls : Listing) : Prop :=
  if isBlankText part then ls = [] else readListing part = .ok ls

theorem contributes_blank {part : String} {ls : Listing} (h : isBlankText part) :
    Contributes part ls ↔ ls = [] := by rw [Contributes, if_pos h]

theorem contributes_filled {part : String} {ls : Listing} (h : isBlankText part = false) :
    Contributes part ls ↔ readListing part = .ok ls := by
  rw [Contributes, h, if_neg Bool.false_ne_true]

theorem flatMap_filled {parts : List (String × Listing)}
    (h : ∀ part ∈ parts, Contributes part.1 part.2) :
    (parts.filter (!isBlankText ·.1)).flatMap (·.2) = parts.flatMap (·.2) := by
  induction parts with
  | nil => rfl
  | cons part more ih =>
    have hpart := h part List.mem_cons_self
    have hmore := ih fun other hother => h other (List.mem_cons_of_mem part hother)
    rw [List.filter_cons, List.flatMap_cons]
    cases hblank : isBlankText part.1 with
    | true =>
      rw [(contributes_blank hblank).mp hpart]
      exact hmore
    | false => exact congrArg (part.2 ++ ·) hmore

/-- Blank parts are left out, and have no lines. -/
theorem readListing_contributions {parts : List (String × Listing)}
    (h : ∀ part ∈ parts, Contributes part.1 part.2) :
    let kept := (parts.map (·.1)).filter (!isBlankText ·)
    readListing (String.ofList (joinWith ['\n'] (kept.map (·.toList)))) =
      .ok (parts.flatMap (·.2)) := by
  intro kept
  let filled := parts.filter (!isBlankText ·.1)
  have hkept : kept = filled.map (·.1) := List.filter_map
  have hread : ∀ part ∈ filled, readListing part.1 = .ok part.2 := by
    intro part hpart
    obtain ⟨hmem, hfilled⟩ := List.mem_filter.mp hpart
    exact (contributes_filled (by simpa using hfilled)).mp (h part hmem)
  rw [hkept, List.map_map, ← flatMap_filled h]
  exact readListing_joinWith filled hread

/-- **Composing logic composes listings**: texts with a line feed between them are read as their lines,
one after another, and the logic of a question as the lines of its parts, in order. -/
theorem readListing_compose :
    (∀ (first second : String) (ls ls' : Listing), readListing first = .ok ls →
      readListing second = .ok ls' → readListing (first ++ "\n" ++ second) = .ok (ls ++ ls')) ∧
    ∀ (c : Coach) (id : String) (q : Question) (before own after : Listing),
      c.question? id = some q → Contributes c.preLogic before → Contributes q.logic own →
      Contributes c.postLogic after →
      ∃ text, c.compose? id = some text ∧ readListing text = .ok (before ++ own ++ after) := by
  refine ⟨fun _ _ _ _ h h' => readListing_newline h h', ?_⟩
  intro c id q before own after hq hbefore hown hafter
  have hparts : ∀ part ∈ [(c.preLogic, before), (q.logic, own), (c.postLogic, after)],
      Contributes part.1 part.2 := by simp [*]
  refine ⟨_, by rw [compose?, hq, Option.map_some], ?_⟩
  simpa [Coach.parts] using readListing_contributions hparts

/-- Logic in front that ends in an open remark, a question without any of its own, and logic behind
that ends in a carriage return. -/
theorem readListing_compose_remark :
    let c : Coach := ⟨"c", "a() : : ; // b() : : ;", "TRUE:7:;\r", [⟨"q1", "\t"⟩]⟩
    let before : Listing := [⟨.call (.levels 0) "a" [], "", []⟩]
    let after : Listing := [⟨.value (.bool true), "7", []⟩]
    readListing (c.preLogic ++ "\n" ++ c.postLogic) = .ok (before ++ after) ∧
      ∃ text, c.compose? "q1" = some text ∧ readListing text = .ok (before ++ [] ++ after) := by
  intro c before after
  obtain ⟨htwo, hquestion⟩ := readListing_compose
  have hread : readListing c.preLogic = .ok before := eq_ok_of_toOption (by decide +kernel)
  have hread' : readListing c.postLogic = .ok after := eq_ok_of_toOption (by decide +kernel)
  have hbefore : Contributes c.preLogic before := (contributes_filled (by decide +kernel)).mpr hread
  have hown : Contributes "\t" [] := (contributes_blank (by decide +kernel)).mpr rfl
  have hafter : Contributes c.postLogic after := (contributes_filled (by decide +kernel)).mpr hread'
  exact ⟨htwo _ _ _ _ hread hread', hquestion c "q1" ⟨"q1", "\t"⟩ _ [] _ rfl hbefore hown hafter⟩

end Coach

end CoachScript
