import CoachScript.Proofs.Grammar.Spelling

/-!
# Kinds of lexemes

* `Lexeme.IsFirst`: what a lexeme at the front of a text is, kind by kind: its token, its characters, and
  what is left, which does not go on with it.
* **`Lexeme.isFirst_of_first`**: the lexeme at the front of a text is of one of these kinds.
* `Lexeme.IsFirst.first?`: conversely each of them is the lexeme at the front of its text.
* `Lexeme.spelled_first`: so every lexeme has a text of the right form.
-/

namespace CoachScript

namespace Lexeme

/-- A lexeme and what is left of its text. -/
inductive IsFirst : Lexeme → Prop
  | blanks {run rest : List Char} (hne : run ≠ []) (hrun : ∀ c ∈ run, isSpace c)
      (hrest : ∀ c ∈ rest.head?, isSpace c = false) :
      IsFirst ⟨.blanks (String.ofList run), run, rest⟩
  | newline {rest : List Char} : IsFirst ⟨.newline, ['\n'], rest⟩
  | comment {remark rest : List Char} (hremark : ∀ c ∈ remark, isLineEnd c = false)
      (hrest : ∀ c ∈ rest.head?, isLineEnd c) (hends : endsComment rest) :
      IsFirst ⟨.comment (String.ofList (trim remark)), '/' :: '/' :: remark, rest⟩
  | string {inside value rest : List Char} (h : Denotes inside value) :
      IsFirst ⟨.string (String.ofList value), '"' :: (inside ++ ['"']), rest⟩
  | integer {sign digits rest : List Char} (hsign : sign = [] ∨ sign = ['-'])
      (hdigits : isDigits digits) (hrest : ∀ c ∈ rest.head?, isAsciiDigit c = false)
      (hfraction : fraction? rest = none) :
      IsFirst ⟨.integer (String.ofList (sign ++ digits)), sign ++ digits, rest⟩
  | float {sign whole fraction rest : List Char} (hsign : sign = [] ∨ sign = ['-'])
      (hwhole : isDigits whole) (hfraction : isDigits fraction)
      (hrest : ∀ c ∈ rest.head?, isAsciiDigit c = false) :
      IsFirst ⟨.float (String.ofList (sign ++ whole ++ '.' :: fraction)),
        sign ++ whole ++ '.' :: fraction, rest⟩
  | word {c : Char} {text rest : List Char} (hc : isNameStart c) (htext : ∀ d ∈ text, isNameRest d)
      (hrest : ∀ d ∈ rest.head?, isNameRest d = false) : IsFirst ⟨wordToken (c :: text), c :: text, rest⟩
  | dot {rest : List Char} : IsFirst ⟨.operator .dot, ['.'], rest⟩
  | delimiter (d : Delimiter) {rest : List Char} : IsFirst ⟨.delimiter d, [d.char], rest⟩

variable {text : List Char} {l : Lexeme}

theorem forall_takeWhile (p : Char → Bool) (text : List Char) : ∀ c ∈ text.takeWhile p, p c :=
  List.all_eq_true.mp List.all_takeWhile

theorem head?_dropWhile (p : Char → Bool) (text : List Char) :
    ∀ c ∈ (text.dropWhile p).head?, p c = false := by
  intro c hc
  have hstop := List.head?_dropWhile_not p text
  rw [Option.mem_def.mp hc] at hstop
  exact hstop

theorem isDigits_takeWhile (h : text.takeWhile isAsciiDigit ≠ []) :
    isDigits (text.takeWhile isAsciiDigit) :=
  isDigits_iff.mpr ⟨h, forall_takeWhile _ text⟩

/-! ### Each reader -/

theorem isFirst_blanks (h : blanks? text = some l) : IsFirst l := by
  unfold blanks? at h
  split at h
  · cases h
  next hne =>
    cases h
    exact .blanks hne (forall_takeWhile _ text) (head?_dropWhile _ text)

theorem isFirst_newline (h : newline? text = some l) : IsFirst l := by
  unfold newline? at h
  split at h
  · cases h
    exact .newline
  · cases h

theorem isFirst_comment (h : comment? text = some l) : IsFirst l := by
  unfold comment? at h
  split at h
  next tail =>
    dsimp only at h
    split_ifs at h with hends
    cases h
    refine .comment (fun c hc => ?_) (fun c hc => ?_) hends
    · simpa using forall_takeWhile _ tail c hc
    · simpa using head?_dropWhile _ tail c hc
  next => cases h

theorem isFirst_string (h : string? text = some l) : IsFirst l := by
  unfold string? at h
  split at h
  next tail =>
    obtain ⟨⟨value, body, after⟩, hbody, hl⟩ := Option.bind_eq_some_iff.mp h
    cases hl
    obtain ⟨inside, hinside, rfl⟩ := denotes_of_stringBody? hbody
    exact .string hinside
  next => cases h

theorem isFirst_unsigned {sign : List Char} (hsign : sign = [] ∨ sign = ['-'])
    (h : unsigned? sign text = some l) : IsFirst l := by
  unfold unsigned? at h
  split at h
  · cases h
  next hne =>
    have hdigits := isDigits_takeWhile hne
    dsimp only at h
    split at h
    next fraction after hfraction =>
      cases h
      unfold fraction? at hfraction
      split at hfraction
      next tail _ =>
        split at hfraction
        · cases hfraction
        next hne' =>
          cases hfraction
          exact .float hsign hdigits (isDigits_takeWhile hne') (head?_dropWhile _ tail)
      next => cases hfraction
    next hfraction =>
      cases h
      exact .integer hsign hdigits (head?_dropWhile _ text) hfraction

theorem isFirst_number (h : number? text = some l) : IsFirst l := by
  unfold number? at h
  split at h
  · exact isFirst_unsigned (.inr rfl) h
  · exact isFirst_unsigned (.inl rfl) h

theorem isFirst_mark (h : mark? text = some l) : IsFirst l := by
  unfold mark? at h
  split at h
  next => cases h
  next c tail =>
    split_ifs at h with hdot
    · cases h
      subst hdot
      exact .dot
    · obtain ⟨d, hd, rfl⟩ := Option.map_eq_some_iff.mp h
      have hc : d.char = c := by
        rw [Delimiter.ofChar?] at hd
        simpa using List.find?_some hd
      subst hc
      exact .delimiter d

theorem isFirst_word (h : word? text = some l) : IsFirst l := by
  cases text with
  | nil => cases h
  | cons c tail =>
    rw [word?] at h
    split_ifs at h with hc
    cases h
    exact .word hc (forall_takeWhile _ tail) (head?_dropWhile _ tail)

/-- **The lexeme at the front of a text is of one of the kinds.** -/
theorem isFirst_of_first (h : first? text = some l) : IsFirst l := by
  simp only [first?, Option.orElse_eq_orElse, Option.orElse_eq_or, Option.or_eq_some_iff] at h
  rcases h with h | ⟨-, h | ⟨-, h | ⟨-, h | ⟨-, h | ⟨-, h | ⟨-, h⟩⟩⟩⟩⟩⟩
  · exact isFirst_blanks h
  · exact isFirst_newline h
  · exact isFirst_comment h
  · exact isFirst_string h
  · exact isFirst_number h
  · exact isFirst_mark h
  · exact isFirst_word h

/-! ### Each kind -/

theorem first?_blanks {run rest : List Char} (hne : run ≠ []) (hrun : ∀ c ∈ run, isSpace c)
    (hrest : ∀ c ∈ rest.head?, isSpace c = false) :
    first? (run ++ rest) = some ⟨.blanks (String.ofList run), run, rest⟩ := by
  obtain ⟨c, run, rfl⟩ := List.exists_cons_of_ne_nil hne
  have htail : ∀ d ∈ run, isSpace d := fun d hd => hrun d (List.mem_cons_of_mem c hd)
  rw [List.cons_append, first?_space (hrun c List.mem_cons_self), takeWhile_run htail hrest,
    dropWhile_run htail hrest]

/-- A lexeme of one of the kinds is the first of its text. -/
theorem IsFirst.first? (h : IsFirst l) : Lexeme.first? (l.text ++ l.rest) = some l := by
  cases h with
  | blanks hne hrun hrest => exact first?_blanks hne hrun hrest
  | newline => rfl
  | comment hremark hrest hends => exact first?_comment hremark hrest hends
  | string h => exact first?_quoted h _
  | integer hsign hdigits hrest hfraction =>
    exact first?_number hsign hdigits (unsigned?_integer _ hdigits hrest hfraction)
  | float hsign hwhole hfraction hrest =>
    have hfirst := first?_number hsign hwhole (unsigned?_float _ hwhole hfraction hrest)
    rwa [← List.append_assoc] at hfirst
  | word hc htext hrest => exact first?_word hc htext hrest
  | dot => exact first?_dot _
  | delimiter d => exact first?_mark d _

/-! ### Every lexeme is spelled -/

theorem spelled_wordToken {c : Char} {text : List Char} (hc : isNameStart c)
    (htext : ∀ d ∈ text, isNameRest d) : (wordToken (c :: text)).spelled := by
  unfold wordToken
  cases hkeyword : Keyword.ofText? (String.ofList (c :: text)) with
  | some word => rfl
  | none =>
    show isName (String.ofList (c :: text))
    rw [isName, String.toList_ofList]
    simp only [hc, hkeyword, List.all_eq_true.mpr htext, Option.isNone_none, Bool.and_true]

/-- **Every lexeme has a text of the right form.** -/
theorem spelled_first (h : first? text = some l) : l.token.spelled := by
  cases isFirst_of_first h with
  | integer hsign hdigits => exact isIntegerText_ofList hsign hdigits
  | float hsign hwhole hfraction => exact isFloatText_ofList hsign hwhole hfraction
  | word hc htext => exact spelled_wordToken hc htext
  | blanks | newline | comment | string | dot | delimiter => rfl

end Lexeme

end CoachScript
