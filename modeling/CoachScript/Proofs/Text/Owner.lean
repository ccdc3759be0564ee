import CoachScript.Proofs.Text.Words

/-!
# The question that an option's id names

* `Piece`, `candidates`: what a search for pieces of classes of characters finds at the front of a text, in the
  order in which a search finds it that takes as much as it can and gives back one character at a time.
* **`owningQuestionOf?_eq_head?`**: the question is what that search finds first.
* `Mark`, `LastMark`: a `q` without an ASCII digit before it and with a decimal digit behind it, and the last such
  `q` of a text.
* `optionOf_iff`: **an option belongs to the text up to its last mark, with the digits there.**
* **`owningQuestion?_last`**: so it is read off, it names itself, and what is put behind it leaves it as it is.
-/

namespace CoachScript

/-! ### What a search finds -/

/-- A piece of what is searched for: one character of a class, or a run of them. -/
inductive Piece where
  | one (kind : Char → Bool)
  | many (kind : Char → Bool)

/-- The runs of a class at the front of a text, each with the rest, the longest first. -/
def runs (kind : Char → Bool) : List Char → List (List Char × List Char)
  | [] => [([], [])]
  | c :: rest =>
    if kind c then (runs kind rest).map (fun (run, behind) => (c :: run, behind)) ++ [([], c :: rest)]
    else [([], c :: rest)]

/-- What a piece can be at the front of a text, each with the rest, in order of preference. -/
def Piece.cuts : Piece → List Char → List (List Char × List Char)
  | .one _, [] => []
  | .one kind, c :: rest => if kind c then [([c], rest)] else []
  | .many kind, text => runs kind text

/-- What pieces in turn can be at the front of a text, in order of preference. -/
def candidates : List Piece → List Char → List (List Char)
  | [], _ => [[]]
  | piece :: more, text =>
    (piece.cuts text).flatMap fun (front, rest) => (candidates more rest).map (front ++ ·)

/-- The id of a question: anything without ASCII digits, a `q` and decimal digits. -/
def questionPieces : List Piece :=
  [.many (!isAsciiDigit ·), .one (· == 'q'), .one isDecimalDigit, .many isDecimalDigit]

section Candidates

variable {kind : Char → Bool} {more : List Piece} {c : Char} {rest : List Char}

theorem candidates_one_of_true (h : kind c) :
    candidates (.one kind :: more) (c :: rest) = (candidates more rest).map (c :: ·) := by
  simp [candidates, Piece.cuts, h]

theorem candidates_one_of_false (h : kind c = false) :
    candidates (.one kind :: more) (c :: rest) = [] := by
  simp [candidates, Piece.cuts, h]

/-- The character is taken; where nothing is found so, it is given back. -/
theorem candidates_many_of_true (h : kind c) :
    candidates (.many kind :: more) (c :: rest) =
      (candidates (.many kind :: more) rest).map (c :: ·) ++ candidates more (c :: rest) := by
  simp [candidates, Piece.cuts, runs, h, List.flatMap_map, List.map_flatMap, Function.comp_def]

theorem candidates_many_of_false (h : kind c = false) :
    candidates (.many kind :: more) (c :: rest) = candidates more (c :: rest) := by
  simp [candidates, Piece.cuts, runs, h]

end Candidates

/-- Of a run, all is taken. -/
theorem head?_candidates_many (kind : Char → Bool) (text : List Char) :
    (candidates [.many kind] text).head? = some (text.takeWhile kind) := by
  induction text with
  | nil => rfl
  | cons c rest ih =>
    cases hc : kind c with
    | true =>
      rw [candidates_many_of_true hc, List.head?_append, List.head?_map, ih,
        List.takeWhile_cons_of_pos hc]
      rfl
    | false =>
      rw [candidates_many_of_false hc, List.takeWhile_cons_of_neg (by simp [hc])]
      rfl

theorem head?_candidates_digits (text : List Char) :
    (candidates [.one isDecimalDigit, .many isDecimalDigit] text).head? =
      if leadingDigits text = [] then none else some (leadingDigits text) := by
  unfold leadingDigits
  cases text with
  | nil => rfl
  | cons c rest =>
    cases hc : isDecimalDigit c with
    | true =>
      rw [candidates_one_of_true hc, List.head?_map, head?_candidates_many,
        List.takeWhile_cons_of_pos hc]
      rfl
    | false =>
      rw [candidates_one_of_false hc, List.takeWhile_cons_of_neg (by simp [hc])]
      rfl

/-- **The question of an option is what the search for the id of a question finds first.** -/
theorem owningQuestionOf?_eq_head? (text : List Char) :
    owningQuestionOf? text = (candidates questionPieces text).head? := by
  unfold questionPieces
  induction text with
  | nil => rfl
  | cons c rest ih =>
    rw [owningQuestionOf?]
    cases hc : isAsciiDigit c with
    | true =>
      have hq : c ≠ 'q' := by
        rintro rfl
        cases hc
      rw [if_pos rfl, candidates_many_of_false (by simp [hc]),
        candidates_one_of_false (by simpa using hq)]
      rfl
    | false =>
      rw [if_neg (by decide), candidates_many_of_true (by simp [hc]), List.head?_append, List.head?_map,
        ← ih]
      cases owningQuestionOf? rest with
      | some found => rfl
      | none =>
        dsimp only
        by_cases hq : c = 'q'
        · rw [candidates_one_of_true (by simpa using hq), List.head?_map, head?_candidates_digits]
          by_cases hdigits : leadingDigits rest = [] <;> simp [hq, hdigits]
        · rw [candidates_one_of_false (by simpa using hq)]
          simp [hq]

/-! ### Marks -/

/-- Between the two parts of a text stands a `q`, with no ASCII digit before it and a decimal digit behind it. -/
def Mark (text front behind : List Char) : Prop :=
  text = front ++ 'q' :: behind ∧ (∀ c ∈ front, isAsciiDigit c = false) ∧
    ∃ d ∈ behind.head?, isDecimalDigit d

/-- The last mark of a text. -/
def LastMark (text front behind : List Char) : Prop :=
  Mark text front behind ∧ ∀ front' behind', Mark text front' behind' → front'.length ≤ front.length

section Marks

variable {text front behind digits : List Char}

theorem not_isDecimalDigit_q : isDecimalDigit 'q' = false := by decide

/-- A `q` that stands behind another stands behind the digits of that one. -/
theorem le_length_of_digits {front' : List Char} (h : front ++ 'q' :: digits <+: text)
    (hdigits : ∀ c ∈ digits, isDecimalDigit c) (h' : front' ++ ['q'] <+: text)
    (hlt : front.length < front'.length) : front ++ 'q' :: digits <+: front' := by
  by_contra hnot
  have hfront' : front' <+: text := (List.prefix_append front' ['q']).trans h'
  have hlong : front'.length < (front ++ 'q' :: digits).length := by
    by_contra hle
    exact hnot (List.prefix_of_prefix_length_le h hfront' (by omega))
  obtain ⟨rest, hrest⟩ : front' ++ ['q'] <+: front ++ 'q' :: digits :=
    List.prefix_of_prefix_length_le h' h (by rw [List.length_append, List.length_singleton]; omega)
  rw [List.append_assoc] at hrest
  obtain ⟨between, rfl, hbetween⟩ | ⟨between, rfl, hbetween⟩ := List.append_eq_append_iff.mp hrest
  · rw [List.length_append] at hlt
    omega
  · cases between with
    | nil => simp at hlt
    | cons c between =>
      obtain ⟨rfl, rfl⟩ := List.cons.inj hbetween
      have hq := hdigits 'q' (by simp)
      rw [not_isDecimalDigit_q] at hq
      cases hq

theorem Mark.questionId (h : Mark text front behind) :
    QuestionId (front ++ 'q' :: behind.takeWhile isDecimalDigit) := by
  obtain ⟨-, hfront, d, hd, hdigit⟩ := h
  obtain ⟨rest, rfl⟩ := List.head?_eq_some_iff.mp hd
  refine ⟨front, _, rfl, hfront, ?_, fun c hc => List.mem_takeWhile_imp hc⟩
  rw [List.takeWhile_cons_of_pos hdigit]
  exact List.cons_ne_nil _ _

theorem Mark.isPrefix (h : Mark text front behind) :
    front ++ 'q' :: behind.takeWhile isDecimalDigit <+: text := by
  rw [h.1, List.prefix_append_right_inj, List.cons_prefix_cons]
  exact ⟨rfl, List.takeWhile_prefix _⟩

theorem Mark.q_isPrefix (h : Mark text front behind) : front ++ ['q'] <+: text :=
  ⟨behind, by rw [h.1, List.append_assoc, List.singleton_append]⟩

/-- Where the id of a question stands in front, its `q` is a mark. -/
theorem QuestionId.exists_mark {id : List Char} (h : QuestionId id) (hpre : id <+: text) :
    ∃ front digits rest, id = front ++ 'q' :: digits ∧ Mark text front (digits ++ rest) ∧
      digits ≠ [] ∧ ∀ c ∈ digits, isDecimalDigit c := by
  obtain ⟨front, digits, rfl, hfront, hne, hdigits⟩ := h
  obtain ⟨rest, rfl⟩ := hpre
  refine ⟨front, digits, rest, rfl, ⟨by simp, hfront, ?_⟩, hne, hdigits⟩
  obtain ⟨d, more, rfl⟩ := List.exists_cons_of_ne_nil hne
  exact ⟨d, rfl, hdigits d List.mem_cons_self⟩

end Marks

/-- **An option belongs to the text up to its last mark, with the digits there.** -/
theorem optionOf_iff {question optionId : String} :
    OptionOf question optionId ↔ ∃ front behind, LastMark optionId.toList front behind ∧
      question.toList = front ++ 'q' :: behind.takeWhile isDecimalDigit := by
  constructor
  · rintro ⟨hid, hpre, hlongest⟩
    obtain ⟨front, digits, rest, hquestion, hmark, -, hdigits⟩ := hid.exists_mark hpre
    rw [hquestion] at hpre hlongest
    refine ⟨front, digits ++ rest, ⟨hmark, fun front' behind' hmark' => ?_⟩, ?_⟩
    · by_contra hlt
      have hinside := le_length_of_digits hpre hdigits hmark'.q_isPrefix (by omega)
      have hle := hlongest _ hmark'.questionId hmark'.isPrefix
      have hle' := hinside.length_le
      rw [List.length_append, List.length_cons] at hle
      omega
    · have hrun : digits <+: (digits ++ rest).takeWhile isDecimalDigit :=
        isPrefix_leadingDigits (List.prefix_append ..) hdigits
      have hwhole : front ++ 'q' :: digits <+:
          front ++ 'q' :: (digits ++ rest).takeWhile isDecimalDigit := by
        rw [List.prefix_append_right_inj, List.cons_prefix_cons]
        exact ⟨rfl, hrun⟩
      have hle := hlongest _ hmark.questionId hmark.isPrefix
      rw [hquestion]
      exact hwhole.eq_of_length_le hle
  · rintro ⟨front, behind, ⟨hmark, hlast⟩, hquestion⟩
    unfold OptionOf
    rw [hquestion]
    refine ⟨hmark.questionId, hmark.isPrefix, fun other hother hpre => ?_⟩
    obtain ⟨front', digits, rest, rfl, hmark', -, hdigits⟩ := hother.exists_mark hpre
    rcases Nat.lt_or_eq_of_le (hlast _ _ hmark') with hlt | heq
    · have hle := (le_length_of_digits hpre hdigits hmark.q_isPrefix hlt).length_le
      simp only [List.length_append, List.length_cons] at hle ⊢
      omega
    · obtain ⟨rfl, hbehind⟩ := List.append_inj (hmark'.1.symm.trans hmark.1) heq
      obtain ⟨-, rfl⟩ := List.cons.inj hbehind
      have hle := (isPrefix_leadingDigits (List.prefix_append digits rest) hdigits).length_le
      unfold leadingDigits at hle
      simpa using hle

/-! ### The question of an option -/

theorem isSome_owningQuestion?_iff (optionId : String) :
    (owningQuestion? optionId).isSome ↔ ∃ front behind, Mark optionId.toList front behind := by
  constructor
  · intro h
    obtain ⟨question, hquestion⟩ := Option.isSome_iff_exists.mp h
    obtain ⟨front, behind, hlast, -⟩ := optionOf_iff.mp (owningQuestion?_iff.mp hquestion)
    exact ⟨front, behind, hlast.1⟩
  · rintro ⟨front, behind, hmark⟩
    have hspec := owningQuestionOf?_spec optionId.toList
    unfold owningQuestion?
    cases hread : owningQuestionOf? optionId.toList with
    | none =>
      rw [hread] at hspec
      exact absurd hmark.isPrefix (hspec _ hmark.questionId)
    | some id => rfl

/-- The question's own id begins with no longer one. -/
theorem OptionOf.self {question optionId : String} (h : OptionOf question optionId) :
    OptionOf question question := ⟨h.1, List.prefix_refl _, fun _ _ hpre => hpre.length_le⟩

/-- Behind an ASCII digit there are no more marks, so only digits could still make a difference. -/
theorem OptionOf.append {question optionId more : String} (h : OptionOf question optionId)
    (hascii : ∃ c ∈ question.toList, isAsciiDigit c)
    (hmore : ∀ c ∈ more.toList.head?, isDecimalDigit c = false) :
    OptionOf question (optionId ++ more) := by
  obtain ⟨front, behind, ⟨hmark, -⟩, hquestion⟩ := optionOf_iff.mp h
  have hrun : (behind ++ more.toList).takeWhile isDecimalDigit = behind.takeWhile isDecimalDigit := by
    have hnone : more.toList.takeWhile isDecimalDigit = [] := by
      cases hchars : more.toList with
      | nil => rfl
      | cons c rest =>
        rw [hchars] at hmore
        exact List.takeWhile_cons_of_neg (by rw [hmore c rfl]; decide)
    rw [List.takeWhile_append, hnone, List.append_nil]
    split_ifs with hall
    · exact ((List.takeWhile_prefix _).eq_of_length hall).symm
    · rfl
  have hmark' : Mark (optionId ++ more).toList front (behind ++ more.toList) := by
    obtain ⟨htext, hfront, d, hd, hdigit⟩ := hmark
    obtain ⟨rest, rfl⟩ := List.head?_eq_some_iff.mp hd
    exact ⟨by simp [htext], hfront, d, rfl, hdigit⟩
  refine optionOf_iff.mpr ⟨front, behind ++ more.toList, ⟨hmark', fun front' behind' hother => ?_⟩, ?_⟩
  · by_contra hlt
    have hinside := le_length_of_digits hmark'.isPrefix (fun c hc => List.mem_takeWhile_imp hc)
      hother.q_isPrefix (by omega)
    rw [hrun, ← hquestion] at hinside
    obtain ⟨c, hc, hdigit⟩ := hascii
    rw [hother.2.1 c (hinside.subset hc)] at hdigit
    cases hdigit
  · rw [hrun, hquestion]

/-- **The question of an option stands up to the last mark of the option's id.** It is what the search for the id
of a question finds first; there is one just if there is a mark; it is the text up to the last mark, with all the
decimal digits there. It is its own question, and if there is an ASCII digit in it, no text put behind the
option's id changes it that does not begin with a decimal digit. -/
theorem owningQuestion?_last (optionId : String) :
    owningQuestion? optionId =
      ((candidates questionPieces optionId.toList).head?).map String.ofList ∧
    ((owningQuestion? optionId).isSome ↔ ∃ front behind, Mark optionId.toList front behind) ∧
    (∀ question, owningQuestion? optionId = some question ↔
      ∃ front behind, LastMark optionId.toList front behind ∧
        question.toList = front ++ 'q' :: behind.takeWhile isDecimalDigit) ∧
    ∀ question, owningQuestion? optionId = some question →
      owningQuestion? question = some question ∧
        ∀ more, (∃ c ∈ question.toList, isAsciiDigit c) →
          (∀ c ∈ more.toList.head?, isDecimalDigit c = false) →
            owningQuestion? (optionId ++ more) = some question := by
  refine ⟨?_, isSome_owningQuestion?_iff optionId,
    fun question => owningQuestion?_iff.trans optionOf_iff, fun question hquestion => ?_⟩
  · rw [← owningQuestionOf?_eq_head?]
    rfl
  · have hoption := owningQuestion?_iff.mp hquestion
    exact ⟨owningQuestion?_iff.mpr hoption.self,
      fun more hascii hmore => owningQuestion?_iff.mpr (hoption.append hascii hmore)⟩

/-- Of three marks the last counts that stands before all ASCII digits, and digits of another script go on in its
number. With no ASCII digit, what is put behind can bring a later mark. -/
theorem owningQuestion?_last_mixed :
    owningQuestion? "aq٣q1٢_q7" = some "aq٣q1٢" ∧
      owningQuestion? ("aq٣q1٢_q7" ++ "xq5") = some "aq٣q1٢" ∧
      owningQuestion? "aq٣q1٢" = some "aq٣q1٢" ∧
      owningQuestion? "q٣_" = some "q٣" ∧ owningQuestion? ("q٣_" ++ "xq5") = some "q٣_xq5" := by
  have hread : owningQuestion? "aq٣q1٢_q7" = some "aq٣q1٢" := by decide +kernel
  have hascii : ∃ c ∈ "aq٣q1٢".toList, isAsciiDigit c := ⟨'1', by decide +kernel, rfl⟩
  have hhead : ∀ c ∈ "xq5".toList.head?, isDecimalDigit c = false := by
    simp only [show "xq5".toList.head? = some 'x' by decide +kernel, Option.mem_some_iff]
    rintro c rfl
    decide +kernel
  obtain ⟨hself, hmore⟩ := (owningQuestion?_last "aq٣q1٢_q7").2.2.2 _ hread
  exact ⟨hread, hmore "xq5" hascii hhead, hself, by decide +kernel, by decide +kernel⟩

end CoachScript
