import CoachScript.Script.Segment
import CoachScript.Script.Value
import Mathlib.Tactic.SplitIfs

/-!
# How tokens are spelled

* `isName`, `isIntegerText`, `isFloatText`: the texts that identifiers and numbers have.
* `Lexeme.first?_name`, `first?_integer`, …: a text of the right form is the first lexeme, unless
  what follows it goes on with it.
* `Lexeme.induction`: **induction on a text**, lexeme by lexeme.
* `Spells text ts rest`: in front of `rest`, the text is scanned as the words `ts`.
-/

namespace CoachScript

/-! ### Names and numbers -/

/-- The text is an identifier, and no reserved word. -/
def isName (name : String) : Bool :=
  match name.toList with
  | [] => false
  | c :: rest =>
    Lexeme.isNameStart c && rest.all Lexeme.isNameRest && (Keyword.ofText? name).isNone

/-- At least one digit, and nothing else. -/
def isDigits (text : List Char) : Bool := !text.isEmpty && text.all isAsciiDigit

/-- A number without its minus sign, if it has one. -/
def withoutMinus : List Char → List Char
  | '-' :: rest => rest
  | text => text

/-- A minus sign or none, and digits. -/
def isIntegerText (text : String) : Bool := isDigits (withoutMinus text.toList)

/-- A minus sign or none, digits, a point, and digits. -/
def isFloatText (text : String) : Bool :=
  let number := withoutMinus text.toList
  isDigits (number.takeWhile isAsciiDigit) &&
    match number.dropWhile isAsciiDigit with
    | '.' :: fraction => isDigits fraction
    | _ => false

/-- The text of a token is one that tokens of its kind have. -/
def Token.spelled : Token → Bool
  | .identifier name => isName name
  | .integer digits => isIntegerText digits
  | .float digits => isFloatText digits
  | _ => true

/-- What follows a word does not go on with it, nor with the point of a float. -/
def Stops (rest : List Char) : Prop := ∀ c ∈ rest.head?, Lexeme.isNameRest c = false ∧ c ≠ '.'

theorem isDigits_iff {text : List Char} :
    isDigits text ↔ text ≠ [] ∧ ∀ c ∈ text, isAsciiDigit c := by
  simp [isDigits]

theorem withoutMinus_eq (text : List Char) :
    ∃ sign, text = sign ++ withoutMinus text ∧ (sign = [] ∨ sign = ['-']) := by
  unfold withoutMinus
  split
  · exact ⟨['-'], rfl, .inr rfl⟩
  · exact ⟨[], rfl, .inl rfl⟩

theorem withoutMinus_append {sign digits : List Char} (hsign : sign = [] ∨ sign = ['-'])
    (hdigits : isDigits digits) (rest : List Char) : withoutMinus (sign ++ digits ++ rest) = digits ++ rest := by
  rcases hsign with rfl | rfl
  · obtain ⟨hne, hall⟩ := isDigits_iff.mp hdigits
    cases digits with
    | nil => exact absurd rfl hne
    | cons c digits =>
      have hc : c ≠ '-' := by
        rintro rfl
        exact absurd (hall _ List.mem_cons_self) (by decide)
      rw [List.nil_append, List.cons_append, withoutMinus]
      intro tail h
      exact hc (List.cons.inj h).1
  · rfl

namespace Lexeme

variable {c : Char} {text rest : List Char} {l : Lexeme}

/-! ### Runs of characters -/

theorem takeWhile_run {p : Char → Bool} (htext : ∀ c ∈ text, p c)
    (hrest : ∀ c ∈ rest.head?, p c = false) : (text ++ rest).takeWhile p = text := by
  rw [List.takeWhile_append_of_pos htext]
  cases rest with
  | nil => simp
  | cons c rest => simp [hrest c rfl]

theorem dropWhile_run {p : Char → Bool} (htext : ∀ c ∈ text, p c)
    (hrest : ∀ c ∈ rest.head?, p c = false) : (text ++ rest).dropWhile p = rest := by
  rw [List.dropWhile_append_of_pos htext]
  cases rest with
  | nil => simp
  | cons c rest => simp [hrest c rfl]

theorem isNameRest_of_digit (h : isAsciiDigit c) : isNameRest c := by
  have hlt : c.toNat < 128 := by
    simp only [isAsciiDigit, Bool.and_eq_true, decide_eq_true_eq] at h
    exact Nat.lt_of_le_of_lt h.2 (by decide)
  simp [isNameRest, isNumeric, hlt, h]

theorem isNameStart_of_digit (h : isAsciiDigit c) : isNameStart c = false := by
  have hdigits : ∀ n < 10, isNameStart (Char.ofNat (48 + n)) = false := by decide
  simp only [isAsciiDigit, Bool.and_eq_true, decide_eq_true_eq] at h
  have hlow : 48 ≤ c.toNat := h.1
  have hhigh : c.toNat ≤ 57 := h.2
  have hc := hdigits (c.toNat - 48) (by omega)
  rwa [Nat.add_sub_cancel' hlow, Char.ofNat_toNat] at hc

theorem isAsciiDigit_of_isNameRest (h : isNameRest c = false) : isAsciiDigit c = false := by
  rw [Bool.eq_false_iff]
  intro hdigit
  rw [isNameRest_of_digit hdigit] at h
  cases h

theorem isNameRest_of_start (h : isNameStart c) : isNameRest c := by
  simp only [isNameStart, Bool.or_eq_true] at h
  rcases h with h | h <;> simp [isNameRest, h]

/-- A character of names and numbers begins no layout and no literal text. -/
theorem notMem_of_isNameRest (h : isNameRest c) : c ∉ [' ', '\t', '\r', '\n', '/', '"'] := by
  have hothers : [' ', '\t', '\r', '\n', '/', '"'].all (!isNameRest ·) := by decide
  intro hmem
  have hc := List.all_eq_true.mp hothers c hmem
  rw [h] at hc
  cases hc

/-! ### The first lexeme -/

/-- A character that begins no layout and no literal text is left to numbers, marks and words. -/
theorem first?_cons (h : c ∉ [' ', '\t', '\r', '\n', '/', '"']) :
    first? (c :: rest) =
      (number? (c :: rest)).or ((mark? (c :: rest)).or (word? (c :: rest))) := by
  simp only [List.mem_cons, List.not_mem_nil, or_false, not_or] at h
  obtain ⟨hspace, htab, hreturn, hfeed, hslash, hquote⟩ := h
  have hblanks : blanks? (c :: rest) = none := by simp [blanks?, isSpace, *]
  have hnewline : newline? (c :: rest) = none := by simp [newline?, *]
  have hcomment : comment? (c :: rest) = none := by simp [comment?, *]
  have hstring : string? (c :: rest) = none := by simp [string?, *]
  simp only [first?, Option.orElse_eq_orElse, Option.orElse_eq_or, hblanks, hnewline, hcomment,
    hstring, Option.none_or]

theorem first?_space (hc : isSpace c) (rest : List Char) :
    first? (c :: rest) =
      some ⟨.blanks (String.ofList (c :: rest.takeWhile isSpace)), c :: rest.takeWhile isSpace,
        rest.dropWhile isSpace⟩ := by
  have hblanks : blanks? (c :: rest) = some ⟨.blanks (String.ofList (c :: rest.takeWhile isSpace)),
      c :: rest.takeWhile isSpace, rest.dropWhile isSpace⟩ := by
    simp [blanks?, hc]
  rw [first?, hblanks]
  rfl

theorem first?_mark (d : Delimiter) (rest : List Char) :
    first? (d.char :: rest) = some ⟨.delimiter d, [d.char], rest⟩ := by
  rw [first?_cons (by cases d <;> decide)]
  cases d <;> rfl

theorem first?_dot (rest : List Char) :
    first? ('.' :: rest) = some ⟨.operator .dot, ['.'], rest⟩ := by
  rw [first?_cons (by decide)]
  rfl

/-! ### Words -/

theorem first?_word (hc : isNameStart c) (htext : ∀ d ∈ text, isNameRest d)
    (hrest : ∀ d ∈ rest.head?, isNameRest d = false) :
    first? (c :: text ++ rest) = some ⟨wordToken (c :: text), c :: text, rest⟩ := by
  have hne (d : Char) (hd : isNameStart d = false) : c ≠ d := by
    rintro rfl
    rw [hd] at hc
    cases hc
  have hdigit : isAsciiDigit c = false := by
    rw [Bool.eq_false_iff]
    intro hdigit
    rw [isNameStart_of_digit hdigit] at hc
    cases hc
  have hplain := notMem_of_isNameRest (isNameRest_of_start hc)
  have hminus := hne '-' (by decide)
  have hnumber : number? (c :: (text ++ rest)) = none := by
    simp [number?, unsigned?, hdigit, hminus]
  have hmark : mark? (c :: (text ++ rest)) = none := by
    have hdot := hne '.' (by decide)
    have hdelimiter : Delimiter.ofChar? c = none := by
      rw [Delimiter.ofChar?, List.find?_eq_none]
      intro d _ hd
      rw [beq_iff_eq] at hd
      exact hne d.char (by cases d <;> decide) hd.symm
    simp [mark?, hdot, hdelimiter]
  rw [List.cons_append, first?_cons hplain, hnumber, hmark, Option.none_or, Option.none_or, word?,
    if_pos hc, takeWhile_run htext hrest, dropWhile_run htext hrest]

theorem first?_name {name : String} (h : isName name)
    (hrest : ∀ d ∈ rest.head?, isNameRest d = false) :
    first? (name.toList ++ rest) = some ⟨.identifier name, name.toList, rest⟩ := by
  unfold isName at h
  split at h
  · cases h
  next c text hname =>
    simp only [Bool.and_eq_true, List.all_eq_true, Option.isNone_iff_eq_none] at h
    obtain ⟨⟨hc, htext⟩, hkeyword⟩ := h
    rw [hname, first?_word hc htext hrest, wordToken, ← hname, String.ofList_toList, hkeyword]

theorem first?_keyword (word : Keyword) (hrest : ∀ d ∈ rest.head?, isNameRest d = false) :
    first? (word.text.toList ++ rest) = some ⟨.keyword word, word.text.toList, rest⟩ := by
  have htoken : wordToken word.text.toList = .keyword word := by cases word <;> decide
  obtain ⟨c, text, hword, hc, htext⟩ : ∃ c text, word.text.toList = c :: text ∧ isNameStart c ∧
      ∀ d ∈ text, isNameRest d := by
    cases word
    all_goals exact ⟨_, _, rfl, by decide, List.all_eq_true.mp (by decide)⟩
  rw [hword] at htoken ⊢
  rw [first?_word hc htext hrest, htoken]

/-! ### Strings -/

theorem stringBody?_quote (rest : List Char) : stringBody? ('"' :: rest) = some ([], ['"'], rest) := by
  rw [stringBody?]

theorem stringBody?_escaped {meant : Char} (h : escaped? c = some meant) (rest : List Char) :
    stringBody? ('\\' :: c :: rest) =
      (stringBody? rest).map fun (value, text, rest) => (meant :: value, '\\' :: c :: text, rest) := by
  rw [stringBody?, h]
  cases stringBody? rest <;> rfl

theorem stringBody?_plain (hquote : c ≠ '"') (hbackslash : c ≠ '\\') (rest : List Char) :
    stringBody? (c :: rest) =
      (stringBody? rest).map fun (value, text, rest) => (c :: value, c :: text, rest) := by
  rw [stringBody?]
  · cases stringBody? rest <;> rfl
  all_goals
    intros
    simp_all

/-- Between quotes the first text stands for the second: plain characters for themselves, and behind a
backslash there are four escapes. -/
inductive Denotes : List Char → List Char → Prop
  | nil : Denotes [] []
  | plain {c : Char} {inside value : List Char} (hquote : c ≠ '"') (hbackslash : c ≠ '\\')
      (h : Denotes inside value) : Denotes (c :: inside) (c :: value)
  | escape {c meant : Char} {inside value : List Char}
      (hc : (c, meant) ∈ [('"', '"'), ('\\', '\\'), ('n', '\n'), ('t', '\t')])
      (h : Denotes inside value) : Denotes ('\\' :: c :: inside) (meant :: value)

theorem escaped?_eq_some_iff {c meant : Char} :
    escaped? c = some meant ↔ (c, meant) ∈ [('"', '"'), ('\\', '\\'), ('n', '\n'), ('t', '\t')] := by
  constructor
  · intro h
    unfold escaped? at h
    split at h <;> cases h <;> simp
  · intro h
    simp only [List.mem_cons, Prod.mk.injEq, List.not_mem_nil, or_false] at h
    rcases h with ⟨rfl, rfl⟩ | ⟨rfl, rfl⟩ | ⟨rfl, rfl⟩ | ⟨rfl, rfl⟩
    all_goals rfl

/-- The inside of a literal is read as what it stands for, up to the quote behind it. -/
theorem stringBody?_of_denotes {inside value : List Char} (h : Denotes inside value)
    (rest : List Char) :
    stringBody? (inside ++ '"' :: rest) = some (value, inside ++ ['"'], rest) := by
  induction h with
  | nil => exact stringBody?_quote rest
  | plain hquote hbackslash _ ih =>
    rw [List.cons_append, stringBody?_plain hquote hbackslash, ih]
    rfl
  | escape hc _ ih =>
    rw [List.cons_append, List.cons_append, stringBody?_escaped (escaped?_eq_some_iff.mpr hc), ih]
    rfl

/-- Conversely what is read is the inside of a literal and its quote. -/
theorem denotes_of_stringBody? {input value body rest : List Char}
    (h : stringBody? input = some (value, body, rest)) :
    ∃ inside, Denotes inside value ∧ body = inside ++ ['"'] := by
  fun_induction stringBody? input generalizing value body rest with
  | case1 => cases h
  | case2 tail =>
    cases h
    exact ⟨[], .nil, rfl⟩
  | case3 => cases h
  | case4 c tail ih =>
    simp only [Option.bind_eq_bind, Option.bind_eq_some_iff, Option.pure_def, Option.some.injEq,
      Prod.mk.injEq] at h
    obtain ⟨meant, hmeant, ⟨_, _, _⟩, hbody, rfl, rfl, -⟩ := h
    obtain ⟨inside, hinside, rfl⟩ := ih hbody
    exact ⟨'\\' :: c :: inside, .escape (escaped?_eq_some_iff.mp hmeant) hinside, rfl⟩
  | case5 c tail hquote hend hescape ih =>
    simp only [Option.bind_eq_bind, Option.bind_eq_some_iff, Option.pure_def, Option.some.injEq,
      Prod.mk.injEq] at h
    obtain ⟨⟨_, _, _⟩, hbody, rfl, rfl, -⟩ := h
    obtain ⟨inside, hinside, rfl⟩ := ih hbody
    have hbackslash : c ≠ '\\' := by
      rintro rfl
      cases tail with
      | nil => exact hend rfl rfl
      | cons d tail => exact hescape d tail rfl rfl
    exact ⟨c :: inside, .plain (fun hc => hquote hc) hbackslash hinside, rfl⟩

theorem first?_quoted {inside value : List Char} (h : Denotes inside value) (rest : List Char) :
    first? ('"' :: (inside ++ ['"']) ++ rest) =
      some ⟨.string (String.ofList value), '"' :: (inside ++ ['"']), rest⟩ := by
  have hstring : string? ('"' :: (inside ++ ['"']) ++ rest) =
      some ⟨.string (String.ofList value), '"' :: (inside ++ ['"']), rest⟩ := by
    rw [List.cons_append, List.append_assoc, List.singleton_append, string?,
      stringBody?_of_denotes h rest]
    rfl
  have hblanks : blanks? ('"' :: (inside ++ ['"']) ++ rest) = none := rfl
  have hnewline : newline? ('"' :: (inside ++ ['"']) ++ rest) = none := rfl
  have hcomment : comment? ('"' :: (inside ++ ['"']) ++ rest) = none := rfl
  rw [first?, hblanks, hnewline, hcomment, hstring]
  rfl

/-- The escaped text stands for the text. -/
theorem denotes_escapeString (value : List Char) : Denotes (escapeString value) value := by
  induction value with
  | nil => exact .nil
  | cons c value ih =>
    rw [escapeString]
    split_ifs with hc
    · rcases hc with rfl | rfl
      all_goals exact .escape (by simp) ih
    · rw [not_or] at hc
      exact .plain hc.1 hc.2 ih

theorem first?_string (text : String) (rest : List Char) :
    first? ('"' :: escapeString text.toList ++ ['"'] ++ rest) =
      some ⟨.string text, '"' :: escapeString text.toList ++ ['"'], rest⟩ := by
  have hfirst := first?_quoted (denotes_escapeString text.toList) rest
  rwa [String.ofList_toList] at hfirst

/-! ### Comments -/

/-- Two slashes and a remark are a comment where the remark meets the end of its line. -/
theorem first?_comment {remark : List Char} (hremark : ∀ c ∈ remark, isLineEnd c = false)
    (hstop : ∀ c ∈ rest.head?, isLineEnd c) (hends : endsComment rest) :
    first? ('/' :: '/' :: remark ++ rest) =
      some ⟨.comment (String.ofList (trim remark)), '/' :: '/' :: remark, rest⟩ := by
  have hrun : ∀ c ∈ remark, (!isLineEnd c) = true := fun c hc => by rw [hremark c hc]; rfl
  have hrest : ∀ c ∈ rest.head?, (!isLineEnd c) = false := fun c hc => by rw [hstop c hc]; rfl
  have hcomment : comment? ('/' :: '/' :: remark ++ rest) =
      some ⟨.comment (String.ofList (trim remark)), '/' :: '/' :: remark, rest⟩ := by
    rw [List.cons_append, List.cons_append, comment?, takeWhile_run hrun hrest,
      dropWhile_run hrun hrest, if_pos hends]
  have hblanks : blanks? ('/' :: '/' :: remark ++ rest) = none := rfl
  have hnewline : newline? ('/' :: '/' :: remark ++ rest) = none := rfl
  rw [first?, hblanks, hnewline, hcomment]
  rfl

theorem isLineEnd_eq_false_iff : isLineEnd c = false ↔ c ≠ '\n' ∧ c ≠ '\r' := by
  simp [isLineEnd]

/-- A remark may meet a line feed or the end of the text. -/
theorem first?_remark {remark : List Char} (hremark : ∀ c ∈ remark, isLineEnd c = false)
    (hrest : ∀ c ∈ rest.head?, c = '\n') :
    first? ('/' :: '/' :: remark ++ rest) =
      some ⟨.comment (String.ofList (trim remark)), '/' :: '/' :: remark, rest⟩ := by
  cases rest with
  | nil => exact first?_comment hremark nofun rfl
  | cons d rest =>
    obtain rfl : d = '\n' := hrest d rfl
    exact first?_comment hremark (by rintro c ⟨⟩; rfl) rfl

/-! ### Numbers -/

theorem first?_number {sign digits : List Char} (hsign : sign = [] ∨ sign = ['-'])
    (hdigits : isDigits digits) (h : unsigned? sign (digits ++ rest) = some l) :
    first? (sign ++ digits ++ rest) = some l := by
  obtain ⟨hne, hall⟩ := isDigits_iff.mp hdigits
  obtain ⟨d, digits, rfl⟩ := List.exists_cons_of_ne_nil hne
  have hd := hall d List.mem_cons_self
  rcases hsign with rfl | rfl
  · have hminus : d ≠ '-' := by
      rintro rfl
      exact absurd hd (by decide)
    have hplain := notMem_of_isNameRest (isNameRest_of_digit hd)
    have hnumber : number? (d :: (digits ++ rest)) = some l := by
      rw [number?]
      · exact h
      · intro tail htail
        exact hminus (List.cons.inj htail).1
    rw [List.nil_append, List.cons_append, first?_cons hplain, hnumber, Option.some_or]
  · have hnumber : number? ('-' :: (d :: digits ++ rest)) = some l := h
    rw [List.singleton_append, List.cons_append, first?_cons (by decide), hnumber, Option.some_or]

theorem fraction?_of_ne (h : ∀ d ∈ rest.head?, d ≠ '.') : fraction? rest = none := by
  cases rest with
  | nil => rfl
  | cons d rest => simp [fraction?, h d rfl]

theorem fraction?_dot :
    fraction? ('.' :: rest) = none ↔ ∀ d ∈ rest.head?, isAsciiDigit d = false := by
  cases rest with
  | nil => simp [fraction?]
  | cons d rest =>
    rw [fraction?]
    cases hd : isAsciiDigit d <;> simp [hd]

theorem unsigned?_integer (sign : List Char) {digits : List Char} (hdigits : isDigits digits)
    (hrest : ∀ d ∈ rest.head?, isAsciiDigit d = false) (hfraction : fraction? rest = none) :
    unsigned? sign (digits ++ rest) =
      some ⟨.integer (String.ofList (sign ++ digits)), sign ++ digits, rest⟩ := by
  obtain ⟨hne, hall⟩ := isDigits_iff.mp hdigits
  rw [unsigned?, takeWhile_run hall hrest, dropWhile_run hall hrest]
  split
  · exact absurd rfl hne
  · simp [hfraction]

theorem unsigned?_float (sign : List Char) {whole fraction : List Char} (hwhole : isDigits whole)
    (hfraction : isDigits fraction) (hrest : ∀ d ∈ rest.head?, isAsciiDigit d = false) :
    unsigned? sign (whole ++ ('.' :: fraction ++ rest)) =
      some ⟨.float (String.ofList (sign ++ whole ++ '.' :: fraction)), sign ++ whole ++ '.' :: fraction,
        rest⟩ := by
  obtain ⟨hne, hall⟩ := isDigits_iff.mp hwhole
  obtain ⟨hne', hall'⟩ := isDigits_iff.mp hfraction
  have hpoint : ∀ d ∈ ('.' :: fraction ++ rest).head?, isAsciiDigit d = false := by
    rintro d ⟨⟩
    decide
  have hread : fraction? ('.' :: fraction ++ rest) = some ('.' :: fraction, rest) := by
    rw [List.cons_append, fraction?, takeWhile_run hall' hrest, dropWhile_run hall' hrest]
    split
    · exact absurd rfl hne'
    · rfl
  rw [unsigned?, takeWhile_run hall hpoint, dropWhile_run hall hpoint]
  split
  · exact absurd rfl hne
  · simp only [hread]

theorem first?_integer {text : String} (h : isIntegerText text) (hrest : Stops rest) :
    first? (text.toList ++ rest) = some ⟨.integer text, text.toList, rest⟩ := by
  obtain ⟨sign, htext, hsign⟩ := withoutMinus_eq text.toList
  have hread := unsigned?_integer sign h (fun d hd => isAsciiDigit_of_isNameRest (hrest d hd).1)
    (fraction?_of_ne fun d hd => (hrest d hd).2)
  rw [← htext, String.ofList_toList] at hread
  have hfirst := first?_number hsign h hread
  rwa [← htext] at hfirst

theorem isFloatText_eq {text : String} (h : isFloatText text) :
    ∃ whole fraction, withoutMinus text.toList = whole ++ '.' :: fraction ∧ isDigits whole ∧
      isDigits fraction := by
  simp only [isFloatText, Bool.and_eq_true] at h
  obtain ⟨hwhole, h⟩ := h
  split at h
  next fraction hpoint =>
    refine ⟨_, fraction, ?_, hwhole, h⟩
    rw [← hpoint, List.takeWhile_append_dropWhile]
  next => cases h

theorem first?_float {text : String} (h : isFloatText text) (hrest : Stops rest) :
    first? (text.toList ++ rest) = some ⟨.float text, text.toList, rest⟩ := by
  obtain ⟨sign, htext, hsign⟩ := withoutMinus_eq text.toList
  obtain ⟨whole, fraction, hnumber, hwhole, hfraction⟩ := isFloatText_eq h
  rw [hnumber] at htext
  have hread := unsigned?_float sign hwhole hfraction
    fun d hd => isAsciiDigit_of_isNameRest (hrest d hd).1
  rw [List.append_assoc, ← htext, String.ofList_toList] at hread
  have hfirst := first?_number hsign hwhole hread
  have hsplit : sign ++ whole ++ ('.' :: fraction ++ rest) = text.toList ++ rest := by
    rw [htext, List.append_assoc, List.append_assoc, List.append_assoc]
  rwa [hsplit] at hfirst

/-! ### The texts of numbers -/

theorem isIntegerText_ofList {sign digits : List Char} (hsign : sign = [] ∨ sign = ['-'])
    (hdigits : isDigits digits) : isIntegerText (String.ofList (sign ++ digits)) := by
  have hnumber := withoutMinus_append hsign hdigits []
  rw [List.append_nil, List.append_nil] at hnumber
  rwa [isIntegerText, String.toList_ofList, hnumber]

theorem isFloatText_ofList {sign whole fraction : List Char} (hsign : sign = [] ∨ sign = ['-'])
    (hwhole : isDigits whole) (hfraction : isDigits fraction) :
    isFloatText (String.ofList (sign ++ whole ++ '.' :: fraction)) := by
  obtain ⟨-, hall⟩ := isDigits_iff.mp hwhole
  have hpoint : ∀ d ∈ ('.' :: fraction).head?, isAsciiDigit d = false := by
    rintro d ⟨⟩
    decide
  rw [isFloatText, String.toList_ofList, withoutMinus_append hsign hwhole _,
    takeWhile_run hall hpoint, dropWhile_run hall hpoint, hwhole]
  exact hfraction

end Lexeme

/-! ### Scanning in parts -/

/-- **Induction on a text, lexeme by lexeme**: what holds where no lexeme begins, and of a text if it
holds behind its first lexeme, holds of every text. -/
theorem Lexeme.induction {motive : List Char → Prop}
    (stop : ∀ text, first? text = none → motive text)
    (step : ∀ text l, first? text = some l → motive l.rest → motive text) (text : List Char) :
    motive text := by
  induction hn : text.length using Nat.strongRecOn generalizing text with
  | ind n ih =>
    cases hfirst : first? text with
    | none => exact stop text hfirst
    | some l => exact step text l hfirst (ih _ (hn ▸ length_rest_lt hfirst) l.rest rfl)

theorem tokens?_eq_ok_iff {text : String} {ts : List Located} :
    tokens? text = .ok ts ↔
      (scan .start text.toList).rest = [] ∧ (scan .start text.toList).tokens = ts := by
  unfold tokens? Scan.result
  cases (scan .start text.toList).rest with
  | nil => simp
  | cons c rest => simp

theorem tokens?_eq_error_iff {text : String} {e : LexError} :
    tokens? text = .error e ↔ e.rest ≠ [] ∧ (scan .start text.toList).rest = e.rest ∧
      (scan .start text.toList).stop = e.place := by
  obtain ⟨place, stopped⟩ := e
  unfold tokens? Scan.result
  cases (scan .start text.toList).rest with
  | nil => simp +contextual [eq_comm]
  | cons c rest =>
    simp only [Except.error.injEq, LexError.mk.injEq]
    constructor
    · rintro ⟨rfl, rfl⟩
      exact ⟨nofun, rfl, rfl⟩
    · rintro ⟨-, rfl, rfl⟩
      exact ⟨rfl, rfl⟩

namespace Scan

/-- The words of a scan: its tokens but layout and remarks. -/
def words (s : Scan) : List Token := (CoachScript.words s.tokens).map (·.token)

end Scan

/-- In front of `rest`, the text is scanned as the words `ts`. -/
def Spells (text : List Char) (ts : List Token) (rest : List Char) : Prop :=
  ∀ place, (scan place (text ++ rest)).rest = (scan (place.advance text) rest).rest ∧
    (scan place (text ++ rest)).words = ts ++ (scan (place.advance text) rest).words

section Spells

variable {text more rest : List Char} {ts us : List Token} {t : Token} {l : Lexeme}

theorem rest_scan_of_first (place : Position) (h : Lexeme.first? text = some l) :
    (scan place text).rest = (scan (place.advance l.text) l.rest).rest := by
  rw [scan_of_some h]

theorem words_scan_of_first (place : Position) (h : Lexeme.first? text = some l) :
    (scan place text).words = (if l.token.isTrivia then [] else [l.token]) ++
      (scan (place.advance l.text) l.rest).words := by
  rw [scan_of_some h]
  unfold Scan.words CoachScript.words
  rw [List.filter_cons]
  cases l.token.isTrivia <;> rfl

theorem Spells.nil : Spells [] [] rest := fun _ => ⟨rfl, rfl⟩

theorem Spells.append (h : Spells text ts (more ++ rest)) (h' : Spells more us rest) :
    Spells (text ++ more) (ts ++ us) rest := by
  intro place
  obtain ⟨hrest, hwords⟩ := h place
  obtain ⟨hrest', hwords'⟩ := h' (place.advance text)
  rw [List.append_assoc, Position.advance_append, List.append_assoc]
  exact ⟨hrest.trans hrest', by rw [hwords, hwords']⟩

/-- Parts that are scanned apart from what follows them are scanned one after another. -/
theorem Spells.flatMap {as : List α} {f : α → List Char} {g : α → List Token}
    (h : ∀ a ∈ as, ∀ rest, Spells (f a) (g a) rest) (rest : List Char) :
    Spells (as.flatMap f) (as.flatMap g) rest := by
  induction as with
  | nil => exact .nil
  | cons a as ih =>
    exact (h a List.mem_cons_self _).append (ih fun b hb => h b (List.mem_cons_of_mem a hb))

/-- A lexeme is scanned as itself, or as no word if it is layout or a remark. -/
theorem Spells.of_lexeme (h : Lexeme.first? (text ++ rest) = some ⟨t, text, rest⟩) :
    Spells text (if t.isTrivia then [] else [t]) rest :=
  fun place => ⟨rest_scan_of_first place h, words_scan_of_first place h⟩

/-- A lexeme that is a word. -/
theorem Spells.of_first (h : Lexeme.first? (text ++ rest) = some ⟨t, text, rest⟩)
    (ht : t.isTrivia = false) : Spells text [t] rest := by
  have hspells := Spells.of_lexeme h
  rwa [ht] at hspells

theorem spells_mark (d : Delimiter) : Spells [d.char] [.delimiter d] rest :=
  .of_first (Lexeme.first?_mark d rest) rfl

theorem spells_dot : Spells ['.'] [.operator .dot] rest := .of_first (Lexeme.first?_dot rest) rfl

theorem spells_name {name : String} (h : isName name)
    (hrest : ∀ c ∈ rest.head?, Lexeme.isNameRest c = false) :
    Spells name.toList [.identifier name] rest := .of_first (Lexeme.first?_name h hrest) rfl

/-- A blank is no word, and goes with the blanks behind it. -/
theorem spells_space {c : Char} (hc : Lexeme.isSpace c) : Spells [c] [] rest := by
  intro place
  have hspace := Lexeme.first?_space hc rest
  have hrest := rest_scan_of_first place hspace
  have hwords := words_scan_of_first place hspace
  rw [List.singleton_append, hrest, hwords]
  cases hrun : rest.takeWhile Lexeme.isSpace with
  | nil =>
    have hsame : rest.dropWhile Lexeme.isSpace = rest := by
      have hsplit := List.takeWhile_append_dropWhile (p := Lexeme.isSpace) (l := rest)
      rwa [hrun, List.nil_append] at hsplit
    rw [hsame]
    exact ⟨rfl, rfl⟩
  | cons c run =>
    have hblanks : Lexeme.first? rest = some ⟨.blanks (String.ofList (c :: run)), c :: run,
        rest.dropWhile Lexeme.isSpace⟩ := by
      rw [Lexeme.first?, Lexeme.blanks?, hrun]
      rfl
    rw [rest_scan_of_first _ hblanks, words_scan_of_first _ hblanks]
    exact ⟨rfl, rfl⟩

end Spells

end CoachScript
