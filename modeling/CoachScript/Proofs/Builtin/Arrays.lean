import CoachScript.Proofs.Pass.Accumulating
import CoachScript.Proofs.Text.Digits

/-!
# Arrays are lists

An array is kept as one text in a variable, a text for each question. Asked by its commands it answers as
a list does.

* `ArrayRequest`: a command with its arguments. `ArrayRequest.answer`: what a list answers and what
  becomes of it.
* `ArrayRequest.answered_run`: **a command answers what the list of its elements does**, and writes at most
  the list that comes of it.
* `World.HoldsArrays`: the texts of some variables hold given lists, without empty elements.
  `HoldsArrays.asked`: each call keeps to the list of its own question and name.
* `Asked`: calls of questions in turn, whatever else happens between them. `answersOf`: what lists answer,
  one for each question and name.
* **`asked_iff_answersOf`**: the calls are answered as these lists do.
-/

namespace CoachScript

/-! ### What is asked of a list -/

/-- An array command and its arguments behind the name. -/
inductive ArrayRequest where
  | add (element : String) (unique? : Option Bool)
  | remove (element : String)
  | clear
  | length
  | contains (element : String)
  | get (index : Int)
deriving DecidableEq, Repr

namespace ArrayRequest

/-- The command. -/
def command : ArrayRequest → Command
  | .add .. => .arrayAdd
  | .remove _ => .arrayRemove
  | .clear => .arrayClear
  | .length => .arrayLength
  | .contains _ => .arrayContains
  | .get _ => .arrayGet

/-- Each command has its own name among all. -/
theorem find?_builtin (r : ArrayRequest) :
    CommandTable.builtin.find? r.command.name = some r.command := by
  have hall : ∀ command ∈ Command.builtins, CommandTable.builtin.find? command.name = some command := by
    decide +kernel
  cases r with
  | add => exact hall .arrayAdd (by decide)
  | remove => exact hall .arrayRemove (by decide)
  | clear => exact hall .arrayClear (by decide)
  | length => exact hall .arrayLength (by decide)
  | contains => exact hall .arrayContains (by decide)
  | get => exact hall .arrayGet (by decide)

/-- The arguments behind the name. -/
def arguments : ArrayRequest → List Value
  | .add element unique? => .string element :: (unique?.map Value.bool).toList
  | .remove element | .contains element => [.string element]
  | .clear | .length => []
  | .get index => [.ofInt index]

/-- The call as a question writes it. -/
def expr (name : String) (r : ArrayRequest) : Expr :=
  .call (.levels 0) r.command.name ((.string name :: r.arguments).map .value)

/-- What a list answers, and what becomes of it. An empty element is refused, and so is an index that
does not fit 64 bits. -/
def answer (es : List String) : ArrayRequest → Except Fault Value × List String
  | .add element unique? =>
    if element = "" then (.error (.invalidValue "arrayAdd" "array elements cannot be empty"), es)
    else if unique?.getD false ∧ element ∈ es then (.ok (.ofInt es.length), es)
    else (.ok (.ofInt (es.length + 1)), es ++ [element])
  | .remove element => (.ok (.bool (element ∈ es)), es.filter (· != element))
  | .clear => (.ok (.ofInt 0), [])
  | .length => (.ok (.ofInt es.length), es)
  | .contains element => (.ok (.bool (element ∈ es)), es)
  | .get index =>
    if -2 ^ 63 ≤ index ∧ index < 2 ^ 63 then
      (.ok (if 0 ≤ index then .ofText? es[index.toNat]? else .null), es)
    else (.error (.invalidValue "arrayGet" (String.join
      ["parameter index must be an integer, got ", quoted (toString index)])), es)

end ArrayRequest

/-! ### Arguments -/

namespace Call

theorem isWord_iff {n : Int} : isWord n ↔ -2 ^ 63 ≤ n ∧ n < 2 ^ 63 := by
  unfold isWord
  rw [Bool.and_eq_true, decide_eq_true_eq, decide_eq_true_eq]
  omega

/-- An integer as it is written is read back if it fits 64 bits. -/
theorem readInteger?_toString (n : Int) :
    readInteger? (trim (toString n).toList) = if isWord n then some n else none := by
  let d := Decimal.ofInt n
  have hunsigned : d.numeral.unsigned = Decimal.digitsOf n.natAbs := d.numeral_unsigned
  have hsign : decide (d.numeral.sign = .minus) = decide (n < 0) := by
    show decide ((if d.isNegative then Sign.minus else Sign.none) = .minus) = d.isNegative
    cases d.isNegative <;> rfl
  have hempty : (Decimal.digitsOf n.natAbs).isEmpty = false :=
    List.isEmpty_eq_false_iff.mpr (Decimal.digitsOf_ne_nil _)
  have hdigits : (Decimal.digitsOf n.natAbs).all isAsciiDigit = true :=
    List.all_eq_true.mpr fun _ => Decimal.isAsciiDigit_digitsOf
  have hvalue : (if decide (n < 0) then -(n.natAbs : Int) else (n.natAbs : Int)) = n := by
    by_cases h : n < 0
    · rw [decide_eq_true h, if_pos rfl]
      omega
    · rw [decide_eq_false h, if_neg (by decide)]
      omega
  rw [← Decimal.source_ofInt, ← Decimal.numeral_text, Numeral.trim_text]
  unfold readInteger?
  rw [Decimal.splitSign_text, hunsigned, hsign]
  dsimp only
  rw [hempty, hdigits, Decimal.ofDigits_digitsOf, hvalue]
  rfl

/-- An index that does not fit 64 bits is no integer. -/
theorem integer_ofInt (call : Call) (v : Value) (index : Int) :
    call.integer [v, .ofInt index] 1 "index" =
      if -2 ^ 63 ≤ index ∧ index < 2 ^ 63 then .ok index
      else .error (.invalidValue call.name (String.join
        ["parameter index must be an integer, got ", quoted (toString index)])) := by
  have hvalue : call.ofKind [v, .ofInt index] 1 "index" numberKinds = .ok (.ofInt index) := rfl
  have htext : (Value.ofInt index).textOrEmpty = toString index := rfl
  unfold integer
  rw [hvalue]
  dsimp only [Bind.bind, Except.bind]
  rw [htext, readInteger?_toString]
  simp only [← isWord_iff]
  cases isWord index with
  | true => rfl
  | false => rfl

end Call

/-! ### One command -/

namespace ArrayRequest

/-- What a list answers and what becomes of it, and what a call answers and what it makes of the world:
the call writes the list that comes of it, or the list stays as it is. -/
inductive Answered (call : Call) (name : String) (w : World) :
    Except Fault Value × List String → Except Fault Value × World → Prop
  | written (a : Except Fault Value) (es : List String) :
    Answered call name w (a, es) (a, Builtin.writeElements call name es w)
  | kept (a : Except Fault Value) : Answered call name w (a, Builtin.elements call name w) (a, w)

variable (call : Call) (name element : String) (w : World)

theorem answered_add (hcall : call.name = "arrayAdd") (unique? : Option Bool) :
    Answered call name w ((add element unique?).answer (Builtin.elements call name w))
      (Command.arrayAdd.run call (.string name :: (add element unique?).arguments) w) := by
  have hadd : Command.arrayAdd.run call (.string name :: (add element unique?).arguments) w =
      Builtin.addElement call name element (unique?.getD false) w := by
    show Builtin.arrayAdd call _ w = _
    rw [arrayAdd_eq]
    cases unique? <;> rfl
  rw [hadd]
  unfold Builtin.addElement
  by_cases hempty : element = ""
  · subst hempty
    rw [show (call.invalid "array elements cannot be empty") =
      .invalidValue "arrayAdd" "array elements cannot be empty" from hcall ▸ rfl]
    exact .kept _
  rw [if_neg (by simpa using hempty), Action.view_bind]
  by_cases hknown : unique?.getD false ∧ element ∈ Builtin.elements call name w
  · rw [if_pos (by simpa using hknown)]
    rw [answer, if_neg hempty, if_pos hknown]
    exact .kept _
  · rw [if_neg (by simpa using hknown)]
    rw [answer, if_neg hempty, if_neg hknown]
    exact .written _ _

theorem answered_remove :
    Answered call name w ((remove element).answer (Builtin.elements call name w))
      (Command.arrayRemove.run call [.string name, .string element] w) := by
  show Answered call name w _ (Builtin.arrayRemove call [.string name, .string element] w)
  have hname : call.text [.string name, .string element] 0 "name" = .ok name := rfl
  have helement : call.text [.string name, .string element] 1 "value" = .ok element := rfl
  unfold Builtin.arrayRemove
  rw [hname, helement, Action.check_bind_ok, Action.check_bind_ok, Action.view_bind, answer]
  by_cases hknown : element ∈ Builtin.elements call name w
  · rw [if_pos (by simpa using hknown), decide_eq_true hknown]
    exact .written _ _
  · rw [if_neg (by simpa using hknown), decide_eq_false hknown]
    have hall : (Builtin.elements call name w).filter (· != element) = Builtin.elements call name w :=
      List.filter_eq_self.mpr fun other hother => by
        rw [bne_iff_ne]
        rintro rfl
        exact hknown hother
    rw [hall]
    exact .kept _

theorem answered_get (hcall : call.name = "arrayGet") (index : Int) :
    Answered call name w ((get index).answer (Builtin.elements call name w))
      (Command.arrayGet.run call [.string name, .ofInt index] w) := by
  have hget : Command.arrayGet.run call [.string name, .ofInt index] w =
      ((call.integer [.string name, .ofInt index] 1 "index").map fun index =>
        .ofText? (if index < 0 then none else (Builtin.elements call name w)[index.toNat]?), w) := rfl
  rw [hget, Call.integer_ofInt, hcall, answer]
  by_cases hword : -2 ^ 63 ≤ index ∧ index < 2 ^ 63
  · rw [if_pos hword, if_pos hword]
    by_cases hnegative : index < 0
    · rw [if_neg (by omega), Except.map, if_pos hnegative]
      exact .kept _
    · rw [if_pos (by omega), Except.map, if_neg hnegative]
      exact .kept _
  · rw [if_neg hword, if_neg hword]
    exact .kept _

/-- **A command answers what the list of its elements does**, and makes of it what it does. -/
theorem answered_run (r : ArrayRequest) (hcall : call.name = r.command.name) :
    Answered call name w (r.answer (Builtin.elements call name w))
      (r.command.run call (.string name :: r.arguments) w) := by
  cases r with
  | add element unique? => exact answered_add call name element w hcall unique?
  | remove element => exact answered_remove call name element w
  | clear => exact .written _ _
  | length => exact .kept _
  | contains element =>
    rw [answer, ← List.contains_eq_mem]
    exact .kept _
  | get index => exact answered_get call name w hcall index

/-- A list without empty elements stays so. -/
theorem not_mem_answer {es : List String} (h : "" ∉ es) (r : ArrayRequest) : "" ∉ (r.answer es).2 := by
  cases r with
  | add element unique? =>
    rw [answer]
    split_ifs with hempty
    · exact h
    · exact h
    · simpa [h] using Ne.symm hempty
  | remove element => exact fun hmem => h (List.mem_of_mem_filter hmem)
  | clear => exact List.not_mem_nil
  | length | contains element => exact h
  | get index =>
    rw [answer]
    split_ifs <;> exact h

end ArrayRequest

/-! ### Many arrays -/

/-- Lists, one for each question and name. -/
abbrev Lists := String → String → List String

/-- The lists with another one for a question and a name. -/
def Lists.put (lists : Lists) (question name : String) (es : List String) : Lists :=
  fun question' name' =>
    if question = question' ∧ name = name' then es else lists question' name'

theorem Lists.put_self (lists : Lists) (question name : String) :
    lists.put question name (lists question name) = lists := by
  funext question' name'
  unfold put
  split_ifs with h
  · rw [h.1, h.2]
  · rfl

/-- The variables of some names hold the texts of lists, none of them with an empty element. -/
structure World.HoldsArrays (w : World) (id : ContextId) (names : Set String) (lists : Lists) :
    Prop where
  made : id < w.contexts.made.size
  elements : ∀ name ∈ names, ∀ question,
    Edit.elementsOf (w.kept id question name) = lists question name
  full : ∀ question name, "" ∉ lists question name

/-- Whatever has happened, the variables of some names are as they were. -/
structure World.Spares (w w' : World) (id : ContextId) (names : Set String) : Prop where
  made : w.contexts.made.size ≤ w'.contexts.made.size
  kept : ∀ name ∈ names, ∀ question, w'.kept id question name = w.kept id question name

namespace World.HoldsArrays

variable {w w' : World} {id : ContextId} {names : Set String} {lists : Lists}

theorem spared (h : w.HoldsArrays id names lists) (hspares : w.Spares w' id names) :
    w'.HoldsArrays id names lists where
  made := Nat.lt_of_lt_of_le h.made hspares.made
  elements name hname question := by rw [hspares.kept name hname question, h.elements name hname]
  full := h.full

/-- A list that is written is there, and the others are as they were. -/
theorem write (h : w.HoldsArrays id names lists) (call : Call) (htarget : call.target = id)
    (name : String) {es : List String} (hes : "" ∉ es) :
    (Builtin.writeElements call name es w).HoldsArrays id names (lists.put (call.source w) name es) := by
  subst htarget
  have hread : ElementList.decode (ElementList.encode es) = es :=
    ElementList.decode_encode fun heq => hes (heq ▸ List.mem_singleton_self "")
  unfold Builtin.writeElements
  refine ⟨Nat.lt_of_lt_of_eq h.made (Contexts.size_modify ..).symm, fun other hother question => ?_,
    fun question other => ?_⟩
  · by_cases hquestion : call.source w = question
    · subst hquestion
      rw [World.kept_write call name _ h.made]
      dsimp only
      by_cases hname : name = other
      · rw [if_pos hname, Edit.elementsOf_string, hread]
        exact (if_pos ⟨rfl, hname⟩).symm
      · rw [if_neg hname, h.elements other hother]
        exact (if_neg fun heq => hname heq.2).symm
    · rw [World.kept_write_of_ne call name _ h.made hquestion, h.elements other hother]
      exact (if_neg fun heq => hquestion heq.1).symm
  · unfold Lists.put
    split_ifs
    · exact hes
    · exact h.full question other

/-- **A call answers what the list of its question and its name does**, and only that list becomes
another. -/
theorem asked {scene : Scene} (h : w.HoldsArrays scene.active names lists)
    (hcommands : ∀ r : ArrayRequest, scene.commands.find? r.command.name = some r.command)
    (question : String) {name : String} (hname : name ∈ names) (r : ArrayRequest) :
    let outcome := evaluate { scene with question } (r.expr name) w
    outcome.1 = (r.answer (lists question name)).1 ∧
      outcome.2.HoldsArrays scene.active names
        (lists.put question name (r.answer (lists question name)).2) := by
  intro outcome
  let call : Call := ⟨r.command.name, { scene with question }, scene.active⟩
  have hsource : call.source w = question := if_pos rfl
  have helements : Builtin.elements call name w = lists question name := by
    rw [← h.elements name hname question, ← hsource]
    rfl
  have hrun : outcome = r.command.run call (.string name :: r.arguments) w := by
    have haccepts : r.command.arity.accepts (Value.string name :: r.arguments).length := by
      cases r with
      | add element unique? => cases unique? <;> rfl
      | _ => rfl
    have hchoose : r.command ≠ .choose := by cases r <;> nofun
    have hfind : ({ scene with question } : Scene).commands.find? r.command.name = some r.command :=
      hcommands r
    exact evaluate_values hfind haccepts hchoose (.levels 0) w
  have hfull := ArrayRequest.not_mem_answer (h.full question name) r
  have hanswered := r.answered_run call name w rfl
  rw [← hrun, helements] at hanswered
  generalize r.answer (lists question name) = expected at hanswered hfull
  generalize outcome = outcome at hanswered
  cases hanswered with
  | written a es =>
    have hwrite := h.write call rfl name hfull
    rw [hsource] at hwrite
    exact ⟨rfl, hwrite⟩
  | kept a =>
    rw [helements, Lists.put_self]
    exact ⟨rfl, h⟩

end World.HoldsArrays

/-! ### Questions in turn -/

/-- An array call of a question. -/
structure ArrayCall where
  question : String
  name : String
  request : ArrayRequest
deriving DecidableEq, Repr

/-- The answers to calls of questions of a context, one after another. Between them anything may happen
that spares the variables of some names. -/
inductive Asked (scene : Scene) (names : Set String) :
    World → List ArrayCall → List (Except Fault Value) → Prop
  | done {w : World} : Asked scene names w [] []
  | next {w w' : World} {c : ArrayCall} {more : List ArrayCall} {answers : List (Except Fault Value)}
    (hspares : w.Spares w' scene.active names)
    (hmore : Asked scene names
      (evaluate { scene with question := c.question } (c.request.expr c.name) w').2 more answers) :
    Asked scene names w (c :: more)
      ((evaluate { scene with question := c.question } (c.request.expr c.name) w').1 :: answers)

/-- What lists answer, each to the calls of its question and its name. -/
def answersOf (lists : Lists) : List ArrayCall → List (Except Fault Value)
  | [] => []
  | c :: more =>
    let (answer, es) := c.request.answer (lists c.question c.name)
    answer :: answersOf (lists.put c.question c.name es) more

theorem World.Spares.refl (w : World) (id : ContextId) (names : Set String) : w.Spares w id names :=
  ⟨Nat.le_refl _, fun _ _ _ => rfl⟩

/-- **Calls are answered as lists do.** -/
theorem World.HoldsArrays.asked_iff {scene : Scene} {names : Set String} {w : World} {lists : Lists}
    (h : w.HoldsArrays scene.active names lists)
    (hcommands : ∀ r : ArrayRequest, scene.commands.find? r.command.name = some r.command)
    {calls : List ArrayCall} (hcalls : ∀ c ∈ calls, c.name ∈ names)
    (answers : List (Except Fault Value)) :
    Asked scene names w calls answers ↔ answers = answersOf lists calls := by
  induction calls generalizing w lists answers with
  | nil =>
    constructor
    · rintro ⟨⟩
      rfl
    · rintro rfl
      exact .done
  | cons c more ih =>
    have hmore : ∀ c ∈ more, c.name ∈ names := fun c hc => hcalls c (List.mem_cons_of_mem _ hc)
    -- Whatever came before, the answer and the lists after it are the same.
    have hstep (w' : World) (hspares : w.Spares w' scene.active names) :=
      (h.spared hspares).asked hcommands c.question (hcalls c List.mem_cons_self) c.request
    constructor
    · intro hasked
      cases hasked with
      | next hspares hrest =>
        obtain ⟨hanswer, hholds⟩ := hstep _ hspares
        rw [(ih hholds hmore _).mp hrest, hanswer]
        rfl
    · rintro rfl
      obtain ⟨hanswer, hholds⟩ := hstep w (.refl w _ _)
      have hasked := Asked.next (.refl w _ _) ((ih hholds hmore _).mpr rfl)
      rw [hanswer] at hasked
      exact hasked

/-- **Arrays are lists, one for each question and name.** However questions of a context ask, and whatever
else happens as long as no other command writes these variables, the answers are those of lists. An empty
element is refused, there is nothing beyond the ends of a list, and an index that does not fit 64 bits is
no integer. -/
theorem asked_iff_answersOf {scene : Scene} {names : Set String} {w : World}
    (hcommands : ∀ r : ArrayRequest, scene.commands.find? r.command.name = some r.command)
    (hmade : scene.active < w.contexts.made.size)
    (hnew : ∀ name ∈ names, ∀ question, w.kept scene.active question name = none)
    {calls : List ArrayCall} (hcalls : ∀ c ∈ calls, c.name ∈ names)
    (answers : List (Except Fault Value)) :
    Asked scene names w calls answers ↔ answers = answersOf (fun _ _ => []) calls := by
  have hholds : w.HoldsArrays scene.active names fun _ _ => [] :=
    ⟨hmade, fun name hname question => by rw [hnew name hname question]; rfl, fun _ _ => List.not_mem_nil⟩
  exact hholds.asked_iff hcommands hcalls answers

/-- Elements with separators and escapes in them, a refused one, and a name that two questions use. -/
theorem asked_two_questions :
    let scene : Scene := ⟨0, .ofId "a", "q1", .builtin⟩
    let w : World := ⟨((∅ : Contexts).obtain "a").2, ∅, #[]⟩
    let names : Set String := {"a"}
    let calls : List ArrayCall :=
      [⟨"q1", "a", .add "x, \\" none⟩, ⟨"q2", "a", .add "y" (some true)⟩, ⟨"q1", "a", .add "" none⟩,
        ⟨"q1", "a", .get 0⟩, ⟨"q1", "a", .get (-1)⟩, ⟨"q2", "a", .remove "y"⟩, ⟨"q1", "a", .length⟩]
    (∀ r : ArrayRequest, scene.commands.find? r.command.name = some r.command) ∧
      scene.active < w.contexts.made.size ∧
      (∀ name ∈ names, ∀ question, w.kept scene.active question name = none) ∧
      (∀ c ∈ calls, c.name ∈ names) ∧
      Asked scene names w calls
        [.ok (.integer "1"), .ok (.integer "1"),
          .error (.invalidValue "arrayAdd" "array elements cannot be empty"), .ok (.string "x, \\"),
          .ok .null, .ok (.bool true), .ok (.integer "1")] := by
  intro scene w names calls
  have hcommands : ∀ r : ArrayRequest, scene.commands.find? r.command.name = some r.command :=
    ArrayRequest.find?_builtin
  have hmade : scene.active < w.contexts.made.size := by decide +kernel
  have hnew : ∀ name ∈ names, ∀ question, w.kept scene.active question name = none := by
    rintro _ rfl question
    rfl
  have hcalls : ∀ c ∈ calls, c.name ∈ names := by simp [calls, names]
  exact ⟨hcommands, hmade, hnew, hcalls,
    (asked_iff_answersOf hcommands hmade hnew hcalls _).mpr rfl⟩

/-- Beyond the end of a list, and beyond 64 bits. -/
theorem asked_beyond_words :
    let scene : Scene := ⟨0, .ofId "a", "q1", .builtin⟩
    let w : World := ⟨((∅ : Contexts).obtain "a").2, ∅, #[]⟩
    let outcome := evaluate scene (.call (.levels 0) "arrayGet"
      [.value (.string "a"), .value (.integer "9223372036854775808")]) w
    outcome.1 = .error (.invalidValue "arrayGet"
        "parameter index must be an integer, got \"9223372036854775808\"") ∧
      outcome.1 ≠ .ok .null := by
  intro scene w outcome
  have hfault : outcome.1 = .error (.invalidValue "arrayGet"
      "parameter index must be an integer, got \"9223372036854775808\"") := by decide +kernel
  refine ⟨hfault, ?_⟩
  rw [hfault]
  nofun

end CoachScript
