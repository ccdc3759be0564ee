import CoachScript.Host.Answer
import Mathlib.Data.List.Infix
import Mathlib.Data.List.TakeWhile

/-!
# Words of a text

* `pieces_of_not_mem`, `pieces_append`: cutting at a separator goes separator by separator.
* `StandsIn`: a piece stands somewhere in a text, between separators or the ends of the text.
* **`mem_pieces_iff`**: the pieces of a text without the separator in them are those that stand in it.
* `Answer.hasToken_iff`: the tokens of an answer are the words that stand in one of its texts.
* `QuestionId`: a `q` with digits behind it, and no digit before it. `OptionOf`: an option belongs to the
  longest id of a question that its own id begins with, and **`owningQuestion?_iff`**: that is read off.
-/

namespace CoachScript

/-! ### Pieces -/

section Pieces

variable (sep : Char)

theorem pieces_cons (c : Char) (rest : List Char) (piece : List Char) (more : List (List Char))
    (h : pieces sep rest = piece :: more) :
    pieces sep (c :: rest) = if c = sep then [] :: piece :: more else (c :: piece) :: more := by
  rw [pieces, h]

/-- A text without the separator is one piece. -/
theorem pieces_of_not_mem {word : List Char} (h : sep ∉ word) : pieces sep word = [word] := by
  induction word with
  | nil => rfl
  | cons c word ih =>
    rw [List.mem_cons, not_or] at h
    rw [pieces_cons sep c word word [] (ih h.2), if_neg (Ne.symm h.1)]

/-- The pieces on both sides of a separator are cut apart from each other. -/
theorem pieces_append (text rest : List Char) :
    pieces sep (text ++ sep :: rest) = pieces sep text ++ pieces sep rest := by
  induction text with
  | nil => simp [pieces]
  | cons c text ih =>
    obtain ⟨piece, more, hpieces⟩ := List.exists_cons_of_ne_nil (pieces_ne_nil sep text)
    rw [hpieces, List.cons_append] at ih
    rw [List.cons_append, pieces_cons sep c _ _ _ ih, pieces_cons sep c _ _ _ hpieces]
    split <;> rfl

/-- The piece stands in the text: before it is nothing or a separator, and behind it, too. -/
def StandsIn (text piece : List Char) : Prop :=
  ∃ before after, text = before ++ piece ++ after ∧ (before = [] ∨ before.getLast? = some sep) ∧
    (after = [] ∨ after.head? = some sep)

/-- What stands behind a separator stands in the whole text. -/
theorem StandsIn.behind {word rest piece : List Char} (h : StandsIn sep rest piece) :
    StandsIn sep (word ++ sep :: rest) piece := by
  obtain ⟨before, after, rfl, hbefore, hafter⟩ := h
  refine ⟨word ++ sep :: before, after, by simp, .inr ?_, hafter⟩
  rcases hbefore with rfl | hlast
  · simp
  · rw [List.getLast?_append, List.getLast?_cons, hlast]
    rfl

/-- **The pieces of a text are what stands in it** and has no separator in it. -/
theorem mem_pieces_iff {text piece : List Char} :
    piece ∈ pieces sep text ↔ sep ∉ piece ∧ StandsIn sep text piece := by
  constructor
  · -- cut at the first separator: by induction on the length of the text
    induction hn : text.length using Nat.strong_induction_on generalizing text with
    | _ n ih =>
      intro h
      by_cases hsep : sep ∈ text
      · obtain ⟨word, rest, rfl, hword⟩ := List.eq_append_cons_of_mem hsep
        rw [pieces_append, pieces_of_not_mem sep hword] at h
        rcases List.mem_cons.mp h with rfl | hrest
        · exact ⟨hword, [], sep :: rest, rfl, .inl rfl, .inr rfl⟩
        · have hlt : rest.length < n := by
            rw [← hn, List.length_append, List.length_cons]
            omega
          obtain ⟨hpiece, hstands⟩ := ih rest.length hlt rfl hrest
          exact ⟨hpiece, hstands.behind⟩
      · rw [pieces_of_not_mem sep hsep, List.mem_singleton] at h
        subst h
        exact ⟨hsep, [], [], by simp, .inl rfl, .inl rfl⟩
  · rintro ⟨hpiece, before, after, rfl, hbefore, hafter⟩
    have hfirst : piece ∈ pieces sep (piece ++ after) := by
      rcases hafter with rfl | hhead
      · rw [List.append_nil, pieces_of_not_mem sep hpiece]
        exact List.mem_singleton_self piece
      · obtain ⟨after, rfl⟩ := List.head?_eq_some_iff.mp hhead
        rw [pieces_append, pieces_of_not_mem sep hpiece]
        exact List.mem_cons_self
    rw [List.append_assoc]
    rcases hbefore with rfl | hlast
    · exact hfirst
    · obtain ⟨before, rfl⟩ := List.getLast?_eq_some_iff.mp hlast
      rw [List.append_assoc, List.singleton_append, pieces_append]
      exact List.mem_append_right _ hfirst

end Pieces

/-! ### Answers -/

/-- **A token of an answer** is a word, not empty and without spaces, that stands in one of the texts. -/
theorem Answer.hasToken_iff (a : Answer) (token : String) :
    a.hasToken token ↔ token ≠ "" ∧ ' ' ∉ token.toList ∧
      ∃ s ∈ a.options ++ a.text.toList, StandsIn ' ' s.toList token.toList := by
  have hmem (s : String) : token ∈ ((pieces ' ' s.toList).filter (!·.isEmpty)).map String.ofList ↔
      token ≠ "" ∧ token.toList ∈ pieces ' ' s.toList := by
    rw [List.mem_map]
    constructor
    · rintro ⟨piece, hpiece, rfl⟩
      rw [List.mem_filter] at hpiece
      rw [String.toList_ofList]
      refine ⟨fun h => ?_, hpiece.1⟩
      have hnil : piece = [] := by simpa using congrArg String.toList h
      rw [hnil] at hpiece
      simp at hpiece
    · rintro ⟨hne, hpiece⟩
      refine ⟨token.toList, List.mem_filter.mpr ⟨hpiece, ?_⟩, String.ofList_toList⟩
      simpa using hne
  unfold hasToken tokens
  rw [List.contains_iff_mem, List.mem_flatMap]
  simp only [hmem, mem_pieces_iff]
  grind

/-! ### The question of an option -/

/-- The id of a question: a `q` with digits behind it, and no ASCII digit before it. -/
def QuestionId (id : List Char) : Prop :=
  ∃ front digits, id = front ++ 'q' :: digits ∧ (∀ c ∈ front, isAsciiDigit c = false) ∧ digits ≠ [] ∧
    ∀ c ∈ digits, isDecimalDigit c

namespace QuestionId

variable {c : Char} {id rest : List Char}

theorem cons (hc : isAsciiDigit c = false) (h : QuestionId id) : QuestionId (c :: id) := by
  obtain ⟨front, digits, rfl, hfront, hdigits⟩ := h
  exact ⟨c :: front, digits, rfl, by simpa using ⟨hc, hfront⟩, hdigits⟩

/-- The id of a question in front of a text begins with its `q`, or with what is not a digit. -/
theorem of_isPrefix (h : QuestionId id) (hpre : id <+: c :: rest) :
    isAsciiDigit c = false ∧
      ((c = 'q' ∧ ∃ digits, id = 'q' :: digits ∧ digits <+: rest ∧ digits ≠ [] ∧
        ∀ d ∈ digits, isDecimalDigit d) ∨
      ∃ more, id = c :: more ∧ QuestionId more ∧ more <+: rest) := by
  obtain ⟨front, digits, rfl, hfront, hdigits, hdecimal⟩ := h
  cases front with
  | nil =>
    rw [List.nil_append, List.cons_prefix_cons] at hpre
    obtain ⟨rfl, hpre⟩ := hpre
    exact ⟨rfl, .inl ⟨rfl, digits, rfl, hpre, hdigits, hdecimal⟩⟩
  | cons d front =>
    rw [List.cons_append, List.cons_prefix_cons] at hpre
    obtain ⟨rfl, hpre⟩ := hpre
    rw [List.forall_mem_cons] at hfront
    exact ⟨hfront.1, .inr ⟨_, rfl, ⟨front, digits, rfl, hfront.2, hdigits, hdecimal⟩, hpre⟩⟩

end QuestionId

/-- A text of decimal digits in front of another is part of its leading digits. -/
theorem isPrefix_leadingDigits {digits text : List Char} (h : digits <+: text)
    (hdigits : ∀ c ∈ digits, isDecimalDigit c) : digits <+: leadingDigits text := by
  obtain ⟨rest, rfl⟩ := h
  unfold leadingDigits
  rw [List.takeWhile_append_of_pos hdigits]
  exact List.prefix_append ..

/-- What is read off an option's id is the longest id of a question in front; nothing is read off where
there is none. -/
theorem owningQuestionOf?_spec (text : List Char) :
    match owningQuestionOf? text with
    | none => ∀ id, QuestionId id → ¬ id <+: text
    | some id => QuestionId id ∧ id <+: text ∧
      ∀ other, QuestionId other → other <+: text → other.length ≤ id.length := by
  induction text with
  | nil =>
    rintro id ⟨front, digits, rfl, -⟩ hpre
    simp at hpre
  | cons c rest ih =>
    rw [owningQuestionOf?]
    by_cases hc : isAsciiDigit c
    · rw [if_pos hc]
      intro id hid hpre
      exact absurd hc (by rw [(hid.of_isPrefix hpre).1]; decide)
    · rw [if_neg hc]
      cases hrest : owningQuestionOf? rest with
      | some more =>
        rw [hrest] at ih
        obtain ⟨hmore, hpre, hlongest⟩ := ih
        refine ⟨hmore.cons (by simpa using hc), (List.prefix_cons_inj c).mpr hpre, ?_⟩
        intro other hother hotherpre
        obtain ⟨-, ⟨-, digits, rfl, hdigits, -, hdecimal⟩ | ⟨tail, rfl, htail, htailpre⟩⟩ :=
          hother.of_isPrefix hotherpre
        · -- the digits behind this `q` end before the `q` of the longer id
          by_contra hlt
          have hinside : more <+: digits :=
            List.prefix_of_prefix_length_le hpre hdigits (by simp at hlt; omega)
          obtain ⟨front, _, rfl, -⟩ := hmore
          have hq : 'q' ∈ digits := hinside.subset (by simp)
          exact absurd (hdecimal 'q' hq) (by decide)
        · have hle := hlongest tail htail htailpre
          simpa using hle
      | none =>
        rw [hrest] at ih
        have honly (id : List Char) (hid : QuestionId id) (hpre : id <+: c :: rest) :
            c = 'q' ∧ leadingDigits rest ≠ [] ∧ id <+: c :: leadingDigits rest := by
          obtain ⟨-, ⟨rfl, digits, rfl, hdigits, hne, hdecimal⟩ | ⟨tail, rfl, htail, htailpre⟩⟩ :=
            hid.of_isPrefix hpre
          · have hleading := isPrefix_leadingDigits hdigits hdecimal
            refine ⟨rfl, fun h => hne ?_, (List.prefix_cons_inj 'q').mpr hleading⟩
            rw [h] at hleading
            exact List.prefix_nil.mp hleading
          · exact absurd htailpre (ih tail htail)
        dsimp only
        by_cases hdigits : c = 'q' ∧ leadingDigits rest ≠ []
        · rw [if_pos hdigits]
          obtain ⟨rfl, hne⟩ := hdigits
          refine ⟨⟨[], leadingDigits rest, rfl, by simp, hne, ?_⟩, ?_, ?_⟩
          · exact fun d hd => List.mem_takeWhile_imp hd
          · exact (List.prefix_cons_inj 'q').mpr (List.takeWhile_prefix _)
          · exact fun other hother hpre => (honly other hother hpre).2.2.length_le
        · rw [if_neg hdigits]
          exact fun id hid hpre => hdigits ⟨(honly id hid hpre).1, (honly id hid hpre).2.1⟩

/-- The option belongs to the question: of the ids of questions that the option's id begins with, the
question has the longest. -/
def OptionOf (question optionId : String) : Prop :=
  QuestionId question.toList ∧ question.toList <+: optionId.toList ∧
    ∀ other, QuestionId other → other <+: optionId.toList → other.length ≤ question.toList.length

/-- **The question of an option is read off its id.** -/
theorem owningQuestion?_iff {optionId question : String} :
    owningQuestion? optionId = some question ↔ OptionOf question optionId := by
  have hspec := owningQuestionOf?_spec optionId.toList
  unfold owningQuestion?
  cases hread : owningQuestionOf? optionId.toList with
  | none =>
    rw [hread] at hspec
    simp only [Option.map_none, reduceCtorEq, false_iff]
    exact fun h => hspec _ h.1 h.2.1
  | some id =>
    rw [hread] at hspec
    obtain ⟨hid, hpre, hlongest⟩ := hspec
    rw [Option.map_some, Option.some.injEq]
    constructor
    · rintro rfl
      unfold OptionOf
      rw [String.toList_ofList]
      exact ⟨hid, hpre, hlongest⟩
    · rintro ⟨hquestion, hquestionpre, hquestionlongest⟩
      have hlength := le_antisymm (hquestionlongest id hid hpre) (hlongest _ hquestion hquestionpre)
      rw [(List.prefix_of_prefix_length_le hpre hquestionpre hlength.le).eq_of_length hlength,
        String.ofList_toList]

end CoachScript
