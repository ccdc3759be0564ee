import CoachScript.Text.ElementList

/-!
# What a list of elements in one text keeps

* `escape_eq_replaceEach`: escaping is replacing the backslashes and then the commas.
* `scan_eq`: reading in one pass, with the element under way and the finished ones in hand.
* `decode_encode`: the elements that were written are read back, except that one empty element
  cannot be told from none.
* `lossless`: **writing and reading lose nothing but that one list**, which only a lone backslash
  is read as.
* `length_decode_append`: a text that goes on has no fewer elements.
-/

namespace CoachScript.ElementList

/-! ### Splitting -/

/-- Puts a run of characters in front of the first element. -/
def extendAll (text : List Char) (elements : List (List Char)) : List (List Char) :=
  text.foldr extend elements

@[simp] theorem extendAll_cons (text e : List Char) (more : List (List Char)) :
    extendAll text (e :: more) = (text ++ e) :: more := by
  induction text with
  | nil => rfl
  | cons c text ih =>
    show extend c (extendAll text (e :: more)) = _
    rw [ih]
    rfl

theorem extend_ne_nil (c : Char) (elements : List (List Char)) : extend c elements ≠ [] := by
  cases elements <;> simp [extend]

theorem length_extend {c : Char} {elements : List (List Char)} (h : elements ≠ []) :
    (extend c elements).length = elements.length := by
  cases elements with
  | nil => exact absurd rfl h
  | cons e more => rfl

theorem split_ne_nil (text : List Char) : split text ≠ [] := by
  fun_cases split text <;> simp [extend_ne_nil]

theorem length_split_pos (text : List Char) : 0 < (split text).length :=
  List.length_pos_iff.mpr (split_ne_nil text)

/-- A character that neither escapes nor begins a separator belongs to the first element. -/
theorem split_cons {c : Char} {rest : List Char} (hbackslash : c ≠ '\\')
    (hseparator : c = ',' → rest.head? ≠ some ' ') :
    split (c :: rest) = extend c (split rest) := by
  rw [split]
  all_goals
    intros
    simp_all

theorem split_separator (rest : List Char) : split (',' :: ' ' :: rest) = [] :: split rest := by
  rw [split]

theorem split_escaped (c : Char) (rest : List Char) :
    split ('\\' :: c :: rest) = extend c (split rest) := by
  rw [split]

/-- The escaped element is read back in front of whatever follows it. -/
theorem split_escape_append (e rest : List Char) :
    split (escape e ++ rest) = extendAll e (split rest) := by
  induction e with
  | nil => rfl
  | cons c e ih =>
    rw [escape]
    by_cases hc : c = '\\' ∨ c = ','
    · rw [if_pos hc, List.cons_append, List.cons_append, split_escaped, ih]
      rfl
    · rw [not_or] at hc
      rw [if_neg (by simpa using hc), List.cons_append, split_cons hc.1 (absurd · hc.2), ih]
      rfl

/-! ### Two replacements and one pass -/

/-- A text with every occurrence of a character replaced. -/
def replaceEach (c : Char) (replacement text : List Char) : List Char :=
  text.flatMap fun d => if d = c then replacement else [d]

/-- Escaping replaces the backslashes before the commas, so that no backslash is escaped twice. -/
theorem escape_eq_replaceEach (e : List Char) :
    escape e = replaceEach ',' ['\\', ','] (replaceEach '\\' ['\\', '\\'] e) := by
  induction e with
  | nil => rfl
  | cons c e ih =>
    unfold replaceEach at ih ⊢
    rw [escape, ih, List.flatMap_cons, List.flatMap_append]
    by_cases hbackslash : c = '\\'
    · subst hbackslash
      rfl
    · by_cases hcomma : c = ','
      · subst hcomma
        rfl
      · simp [hbackslash, hcomma]

/-- Reads a text in one pass: `done` are the elements that ended, `current` is what the one under
way has so far. -/
def scan (done : List (List Char)) (current : List Char) : List Char → List (List Char)
  | [] => done ++ [current]
  | ['\\'] => done ++ [current]
  | '\\' :: c :: rest => scan done (current ++ [c]) rest
  | ',' :: ' ' :: rest => scan (done ++ [current]) [] rest
  | c :: rest => scan done (current ++ [c]) rest

theorem extendAll_append_singleton (current : List Char) (c : Char)
    (elements : List (List Char)) :
    extendAll (current ++ [c]) elements = extendAll current (extend c elements) :=
  List.foldr_append

/-- The scan has read the elements of the rest, the first of them behind the one under way. -/
theorem scan_eq (done : List (List Char)) (current text : List Char) :
    scan done current text = done ++ extendAll current (split text) := by
  fun_induction scan done current text with
  | case1 done current => rw [split, extendAll_cons, List.append_nil]
  | case2 done current => rw [split, extendAll_cons, List.append_nil]
  | case3 done current c rest ih => rw [ih, split_escaped, extendAll_append_singleton]
  | case4 done current rest ih =>
    obtain ⟨e, more, hsplit⟩ := List.exists_cons_of_ne_nil (split_ne_nil rest)
    rw [ih, split_separator, hsplit, extendAll_cons, extendAll_cons, List.nil_append,
      List.append_nil, List.append_assoc, List.singleton_append]
  | case5 done current c rest hend hescape hseparator ih =>
    have hplain : split (c :: rest) = extend c (split rest) := by
      rw [split] <;> assumption
    rw [ih, hplain, extendAll_append_singleton]

theorem encode_eq_replaceEach (elements : List String) :
    encode elements = String.ofList (joinWith [',', ' '] (elements.map fun e =>
      replaceEach ',' ['\\', ','] (replaceEach '\\' ['\\', '\\'] e.toList))) := by
  unfold encode encodeChars
  rw [List.map_map]
  simp only [← escape_eq_replaceEach, Function.comp_def]

/-- The elements of a text that is not empty are read in one pass. -/
theorem decode_eq_scan {text : String} (h : text ≠ "") :
    decode text = (scan [] [] text.toList).map String.ofList := by
  rw [scan_eq, decode, decodeChars, if_neg (by simpa using h)]
  rfl

/-! ### Round trip -/

theorem encodeChars_cons (e f : List Char) (more : List (List Char)) :
    encodeChars (e :: f :: more) = escape e ++ (',' :: ' ' :: encodeChars (f :: more)) := by
  simp [encodeChars, joinWith]

theorem split_encodeChars (e : List Char) (more : List (List Char)) :
    split (encodeChars (e :: more)) = e :: more := by
  induction more generalizing e with
  | nil =>
    have hescape := split_escape_append e []
    rw [List.append_nil] at hescape
    show split (escape e) = [e]
    rw [hescape, split, extendAll_cons, List.append_nil]
  | cons f more ih =>
    rw [encodeChars_cons, split_escape_append, split_separator, ih, extendAll_cons,
      List.append_nil]

theorem escape_eq_nil {e : List Char} (h : escape e = []) : e = [] := by
  cases e with
  | nil => rfl
  | cons c e =>
    rw [escape] at h
    split at h <;> cases h

theorem encodeChars_ne_nil {elements : List (List Char)} (hnil : elements ≠ [])
    (hempty : elements ≠ [[]]) : encodeChars elements ≠ [] := by
  intro h
  match elements with
  | [] => exact hnil rfl
  | [e] => exact hempty (by rw [escape_eq_nil h])
  | e :: f :: more =>
    rw [encodeChars_cons] at h
    simp at h

theorem decodeChars_encodeChars {elements : List (List Char)} (h : elements ≠ [[]]) :
    decodeChars (encodeChars elements) = elements := by
  unfold decodeChars
  match elements with
  | [] => rfl
  | e :: more =>
    have hne := encodeChars_ne_nil (List.cons_ne_nil e more) h
    rw [if_neg (by simpa using hne), split_encodeChars]

/-- The elements that were written are read back. -/
theorem decode_encode {elements : List String} (h : elements ≠ [""]) :
    decode (encode elements) = elements := by
  have hchars : elements.map String.toList ≠ [[]] := by
    intro hmap
    obtain ⟨e, rfl, he⟩ := List.map_eq_singleton_iff.mp hmap
    rw [String.toList_eq_nil_iff] at he
    exact h (by rw [he])
  unfold decode encode
  rw [String.toList_ofList, decodeChars_encodeChars hchars, List.map_map]
  simp

/-! ### The one list that is lost -/

theorem extend_ne_empty (c : Char) (elements : List (List Char)) : extend c elements ≠ [[]] := by
  cases elements <;> simp [extend]

theorem split_eq_empty_iff {text : List Char} :
    split text = [[]] ↔ text = [] ∨ text = ['\\'] := by
  constructor
  · fun_cases split text with
    | case1 => exact fun _ => .inl rfl
    | case2 => exact fun _ => .inr rfl
    | case3 c rest => exact fun h => absurd h (extend_ne_empty c _)
    | case4 rest => exact fun h => absurd (List.cons.inj h).2 (split_ne_nil rest)
    | case5 c rest => exact fun h => absurd h (extend_ne_empty c _)
  · rintro (rfl | rfl) <;> rfl

/-- Only a lone backslash is read as one empty element. -/
theorem decode_eq_empty_iff {text : String} : decode text = [""] ↔ text = "\\" := by
  have hread : decode text = [""] ↔ decodeChars text.toList = [[]] := by
    unfold decode
    rw [List.map_eq_singleton_iff]
    simp
  rw [hread, ← String.toList_inj]
  unfold decodeChars
  split
  · next hempty =>
    rw [List.isEmpty_iff.mp hempty]
    decide
  · next hne =>
    rw [split_eq_empty_iff]
    exact or_iff_right (by simpa using hne)

/-- The list of one empty element is written as the empty text, which is read as no element. -/
theorem decode_encode_iff {elements : List String} :
    decode (encode elements) = elements ↔ elements ≠ [""] := by
  refine ⟨?_, decode_encode⟩
  rintro h rfl
  exact absurd h (by decide)

theorem encode_injective {elements others : List String} (h : elements ≠ [""])
    (hothers : others ≠ [""]) (heq : encode elements = encode others) : elements = others :=
  calc elements
    _ = decode (encode elements) := (decode_encode h).symm
    _ = decode (encode others) := by rw [heq]
    _ = others := decode_encode hothers

/-- **Writing and reading lose nothing** but the list of one empty element. The text of a list is
written by replacing the backslashes and then the commas of each element, and a text is read in one
pass. Every other list is read back from its text, so two of them are never written alike, and what
any text is read as is read back from the text written for it. Only a lone backslash is read as the
list that is lost. -/
theorem lossless :
    (∀ elements, encode elements = String.ofList (joinWith [',', ' '] (elements.map fun e =>
        replaceEach ',' ['\\', ','] (replaceEach '\\' ['\\', '\\'] e.toList)))) ∧
      (∀ text, text ≠ "" → decode text = (scan [] [] text.toList).map String.ofList) ∧
      (∀ elements, decode (encode elements) = elements ↔ elements ≠ [""]) ∧
      (∀ elements others, elements ≠ [""] → others ≠ [""] → encode elements = encode others →
        elements = others) ∧
      (∀ text, decode (encode (decode text)) = decode text ↔ decode text ≠ [""]) ∧
      ∀ text, decode text = [""] ↔ text = "\\" :=
  ⟨encode_eq_replaceEach, fun _ => decode_eq_scan, fun _ => decode_encode_iff,
    fun _ _ => encode_injective, fun _ => decode_encode_iff, fun _ => decode_eq_empty_iff⟩

/-- A list with two empty elements and one that holds all that is escaped or separates, a text
that was not written by `encode`, and two lists that differ by an escape only. -/
theorem lossless_separators :
    decode (encode ["", "a\\, ", ""]) = ["", "a\\, ", ""] ∧
      decode "a,b\\, , ,\\" = ["a,b, ", ","] ∧
      decode (encode (decode "a,b\\, , ,\\")) = decode "a,b\\, , ,\\" ∧
      encode ["a, b"] ≠ encode ["a", "b"] := by
  obtain ⟨-, hscan, hback, hinjective, hreread, -⟩ := lossless
  refine ⟨(hback _).mpr (by decide), ?_, (hreread _).mpr (by decide), fun heq => ?_⟩
  · rw [hscan _ (by decide)]
    decide
  · exact absurd (hinjective ["a, b"] ["a", "b"] (by decide) (by decide) heq) (by decide)

/-! ### Going on -/

/-- The rest of a text has no more elements than the text. -/
theorem length_split_cons {c : Char} (rest : List Char) (hbackslash : c ≠ '\\') :
    (split rest).length ≤ (split (c :: rest)).length := by
  by_cases hseparator : c = ',' ∧ rest.head? = some ' '
  · obtain ⟨rfl, hhead⟩ := hseparator
    obtain ⟨behind, rfl⟩ := List.head?_eq_some_iff.mp hhead
    rw [split_separator, split_cons (by decide) (absurd · (by decide)),
      length_extend (split_ne_nil behind), List.length_cons]
    omega
  · refine Nat.le_of_eq ?_
    rw [split_cons hbackslash (fun hc hhead => hseparator ⟨hc, hhead⟩),
      length_extend (split_ne_nil rest)]

theorem length_split_append (text more : List Char) :
    (split text).length ≤ (split (text ++ more)).length := by
  fun_induction split text with
  | case1 => exact length_split_pos _
  | case2 => exact length_split_pos _
  | case3 c rest ih =>
    rw [List.cons_append, List.cons_append, split_escaped, length_extend (split_ne_nil _),
      length_extend (split_ne_nil _)]
    exact ih
  | case4 rest ih =>
    rw [List.cons_append, List.cons_append, split_separator]
    exact Nat.succ_le_succ ih
  | case5 c rest h1 h2 h3 ih =>
    have hbackslash : c ≠ '\\' := by
      rintro rfl
      cases rest with
      | nil => exact h1 rfl rfl
      | cons d rest => exact h2 d rest rfl rfl
    rw [length_extend (split_ne_nil rest)]
    exact Nat.le_trans ih (length_split_cons (rest ++ more) hbackslash)

/-- A text that goes on has no fewer elements. -/
theorem length_decode_append (text more : String) :
    (decode text).length ≤ (decode (text ++ more)).length := by
  unfold decode decodeChars
  rw [List.length_map, List.length_map, String.toList_append]
  by_cases htext : text.toList = []
  · rw [htext]
    exact Nat.zero_le _
  · have hmore : text.toList ++ more.toList ≠ [] := by simp [htext]
    rw [if_neg (by simpa using htext), if_neg (by simpa using hmore)]
    exact length_split_append _ _

end CoachScript.ElementList
