import CoachScript.Proofs.Eval.Rules
import CoachScript.Proofs.Pass.Accumulating
import CoachScript.Proofs.Text.Words

/-!
# What is selected and what is answered

A question that is hidden counts as not answered, and the host is not asked for its answer.

* `evaluate_one`: a call with one argument is what its command makes of the argument's value.
* `Answer.Says`: an option or the free text has the option's id in it as a word.
* `Builtin.shownAnswer_hidden`, `shownAnswer_shown`: the answer that counts, with the question hidden or not.
* **`evaluate_isSelected`**: in every world, an option is selected only if its question is shown where the
  call acts, and then if the stored answer says so.
-/

namespace CoachScript

/-- A call with one argument is what its command makes of the argument's value, there where the path leads
once the argument has been evaluated. -/
theorem evaluate_one {scene : Scene} {name : String} {command : Command} {e : Expr} {v : Value}
    {w w' : World} (hname : scene.Answers name 1 command) (hchoose : command ≠ .choose)
    (he : evaluate scene e w = (.ok v, w')) (path : Path) :
    evaluate scene (.call path name [e]) w =
      command.run ⟨name, scene, w'.contexts.resolve scene.active path⟩ [v] w' := by
  have hargs : evaluateAll scene [e] w = (.ok [v], w') := by
    unfold evaluateAll
    rw [Action.bind_of_ok he]
    rfl
  exact (Evaluates.ran hname hchoose (evaluatesAll_of_eq scene [e] w hargs)).eq

/-- The answer says that the option is selected: it is a word of one of the texts, between spaces or the ends
of the text. -/
def Answer.Says (a : Answer) (optionId : String) : Prop :=
  ∃ s ∈ a.options ++ a.text.toList, ∃ before after,
    s.toList = before ++ optionId.toList ++ after ∧ optionId ≠ "" ∧ ' ' ∉ optionId.toList ∧
      (before = [] ∨ before.getLast? = some ' ') ∧ (after = [] ∨ after.head? = some ' ')

theorem Answer.hasToken_iff_says (a : Answer) (optionId : String) :
    a.hasToken optionId ↔ a.Says optionId := by
  rw [hasToken_iff]
  unfold Says StandsIn
  grind

namespace Builtin

variable {call : Call} {v : Value} {w : World} {question : String} {answer? : Option Answer}

theorem shownAnswer_hidden (h : (call.context w).hidden.contains question) :
    shownAnswer call question w = .ok none := if_pos h

theorem shownAnswer_shown (h : (call.context w).hidden.contains question = false) :
    shownAnswer call question w = ofHost (w.host.answer (call.context w).name question) :=
  if_neg (by rw [h]; decide)

theorem text_one (hv : v.isTextual) (parameter : String) :
    call.text [v] 0 parameter = .ok v.textOrEmpty := Call.text_of_textual hv

theorem isSelected_eq (hv : v.isTextual) (hquestion : OptionOf question v.textOrEmpty)
    (hanswer : shownAnswer call question w = .ok answer?) :
    isSelected call [v] w = .ok (.bool (answer?.any (·.hasToken v.textOrEmpty))) := by
  unfold isSelected
  rw [text_one hv]
  dsimp only [Bind.bind, Except.bind]
  rw [owningQuestion?_iff.mpr hquestion]
  dsimp only
  rw [hanswer]
  rfl

theorem isAnswered_eq (hv : v.isTextual) (hanswer : shownAnswer call v.textOrEmpty w = .ok answer?) :
    isAnswered call [v] w = .ok (.bool answer?.isSome) := by
  unfold isAnswered
  rw [text_one hv]
  show shownAnswer call v.textOrEmpty w >>= _ = _
  rw [hanswer]
  rfl

end Builtin

/-- **An option is selected only if its question is shown and answered so.** The question is that of the
context where the call acts. Hidden, its options are not selected and it is not answered in any world,
whatever is stored in the host or is out there. Shown, an option is selected just if there is an answer that
says so. -/
theorem evaluate_isSelected (scene : Scene) (path : Path) (name : String) (e : Expr) (w w' : World)
    (v : Value) (he : evaluate scene e w = (.ok v, w')) (hv : v.isTextual) :
    let c := w'.get (w'.contexts.resolve scene.active path)
    (scene.Answers name 1 .isSelected → ∀ question, OptionOf question v.textOrEmpty →
      (c.hidden.contains question →
        evaluate scene (.call path name [e]) w = (.ok (.bool false), w')) ∧
      (c.hidden.contains question = false → ∀ answer?, w'.host.answer c.name question = .ok answer? →
        ∃ selected, evaluate scene (.call path name [e]) w = (.ok (.bool selected), w') ∧
          (selected = true ↔ ∃ answer, answer? = some answer ∧ answer.Says v.textOrEmpty))) ∧
    (scene.Answers name 1 .isAnswered → c.hidden.contains v.textOrEmpty →
      evaluate scene (.call path name [e]) w = (.ok (.bool false), w')) := by
  intro c
  let call : Call := ⟨name, scene, w'.contexts.resolve scene.active path⟩
  have hcontext : call.context w' = c := rfl
  refine ⟨fun hname question hquestion => ⟨fun hhidden => ?_, fun hshown answer? hanswer => ?_⟩,
    fun hname hhidden => ?_⟩
  · rw [evaluate_one hname nofun he]
    have hnone : Builtin.shownAnswer call question w' = .ok none := Builtin.shownAnswer_hidden hhidden
    exact congrArg (·, w') (Builtin.isSelected_eq hv hquestion hnone)
  · have hfound : Builtin.shownAnswer call question w' = .ok answer? := by
      rw [← hcontext] at hshown hanswer
      rw [Builtin.shownAnswer_shown hshown, hanswer]
      rfl
    refine ⟨answer?.any (·.hasToken v.textOrEmpty), ?_, ?_⟩
    · rw [evaluate_one hname nofun he]
      exact congrArg (·, w') (Builtin.isSelected_eq hv hquestion hfound)
    · rw [Option.any_eq_true]
      simp only [Answer.hasToken_iff_says]
  · rw [evaluate_one hname nofun he]
    have hnone : Builtin.shownAnswer call v.textOrEmpty w' = .ok none :=
      Builtin.shownAnswer_hidden hhidden
    exact congrArg (·, w') (Builtin.isAnswered_eq hv hnone)

/-- An instance asks its parent: two spaces make no word, a part of a word is none, and a hidden question has
no answer even while the host is out. -/
theorem evaluate_isSelected_words :
    let w : World := ⟨.pair "a" "b" "c", (∅ : Host).setAnswer "a" "q1" ⟨["q1a  q1b"], none⟩, #[]⟩
    let out : World :=
      ⟨w.contexts.modify 0 fun c => { c with hidden := c.hidden.set "q1" true },
        w.host.setOutage .answer (some "down"), #[]⟩
    let scene : Scene := ⟨1, .ofId "b", "q1", .builtin⟩
    let ask (name id : String) : Expr := .call .root name [.value (.string id)]
    evaluate scene (ask "isSelected" "q1b") w = (.ok (.bool true), w) ∧
      evaluate scene (ask "isSelected" "q1") w = (.ok (.bool false), w) ∧
      evaluate scene (ask "isSelected" "q1b") out = (.ok (.bool false), out) ∧
      evaluate scene (ask "isAnswered" "q1") out = (.ok (.bool false), out) := by
  intro w out scene ask
  have hselected : scene.Answers "isSelected" 1 .isSelected := ⟨by decide +kernel, rfl⟩
  have hanswered : scene.Answers "isAnswered" 1 .isAnswered := ⟨by decide +kernel, rfl⟩
  have hoption : OptionOf "q1" "q1b" := owningQuestion?_iff.mp (by decide +kernel)
  have hown : OptionOf "q1" "q1" := owningQuestion?_iff.mp (by decide +kernel)
  have hfound : w.host.answer "a" "q1" = .ok (some ⟨["q1a  q1b"], none⟩) := by rfl
  obtain ⟨selected, heval, hiff⟩ :=
    ((evaluate_isSelected scene .root "isSelected" (.value (.string "q1b")) w w _ rfl rfl).1 hselected
      "q1" hoption).2 (by decide +kernel) _ hfound
  obtain ⟨part, hevalPart, hiffPart⟩ :=
    ((evaluate_isSelected scene .root "isSelected" (.value (.string "q1")) w w _ rfl rfl).1 hselected
      "q1" hown).2 (by decide +kernel) _ hfound
  have htrue : selected = true := hiff.mpr ⟨_, rfl, (Answer.hasToken_iff_says ..).mp (by decide +kernel)⟩
  have hfalse : part = false := by
    by_contra h
    obtain ⟨answer, hanswer, hsays⟩ := hiffPart.mp (by simpa using h)
    obtain rfl := Option.some.inj hanswer
    exact absurd ((Answer.hasToken_iff_says ..).mpr hsays) (by decide +kernel)
  refine ⟨by rw [heval, htrue], by rw [hevalPart, hfalse], ?_, ?_⟩
  · exact ((evaluate_isSelected scene .root "isSelected" (.value (.string "q1b")) out out _ rfl rfl).1
      hselected "q1" hoption).1 (by decide +kernel)
  · exact (evaluate_isSelected scene .root "isAnswered" (.value (.string "q1")) out out _ rfl rfl).2
      hanswered (by decide +kernel)

end CoachScript
