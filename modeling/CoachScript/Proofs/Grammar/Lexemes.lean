import CoachScript.Proofs.Grammar.Kinds
import Mathlib.Data.List.Basic

/-!
# Texts made of lexemes

A scan takes the longest lexeme every time and never goes back. A text can be made of lexemes in other
ways too, so it is not plain that the scan of such a text comes to its end.

* `IsLexeme`: the texts of lexemes other than comments, kind by kind.
* `Composed admits`: lexemes and comments in any sequence; a comment goes up to the next line feed, and
  `admits` says which remarks it may hold.
* `Composed.dropWhile`: what such a text has behind a run of blanks, of digits or of the characters of
  names is such a text again, so the longest lexeme is never too long (`Composed.first?`).
* `composed_of_first`: conversely the lexeme at the front of a text is one of these.
* **`tokens?_iff_composed`**: a text is scanned to its end just if it is made of lexemes and each carriage
  return in its comments stands right before the line feed.
-/

namespace CoachScript

open Lexeme

/-- The text of a lexeme that is no comment. -/
inductive IsLexeme : List Char → Prop
  | blanks {run : List Char} (hne : run ≠ []) (hrun : ∀ c ∈ run, c ∈ [' ', '\t', '\r']) : IsLexeme run
  | lineFeed : IsLexeme ['\n']
  | string {inside value : List Char} (h : Denotes inside value) : IsLexeme ('"' :: (inside ++ ['"']))
  | integer {sign digits : List Char} (hsign : sign = [] ∨ sign = ['-']) (hdigits : isDigits digits) :
      IsLexeme (sign ++ digits)
  | float {sign whole fraction : List Char} (hsign : sign = [] ∨ sign = ['-'])
      (hwhole : isDigits whole) (hfraction : isDigits fraction) :
      IsLexeme (sign ++ whole ++ '.' :: fraction)
  | word {c : Char} {text : List Char} (hc : isNameStart c) (htext : ∀ d ∈ text, isNameRest d) :
      IsLexeme (c :: text)
  | dot : IsLexeme ['.']
  | delimiter (d : Delimiter) : IsLexeme [d.char]

/-- Lexemes in any sequence. The remark of a comment goes up to the next line feed, or to the end of
the text, and has to be admitted in front of what is behind it. -/
inductive Composed (admits : List Char → List Char → Prop) : List Char → Prop
  | nil : Composed admits []
  | lexeme {piece rest : List Char} (hpiece : IsLexeme piece) (hrest : Composed admits rest) :
      Composed admits (piece ++ rest)
  | comment {remark rest : List Char} (hremark : '\n' ∉ remark) (hend : ∀ c ∈ rest.head?, c = '\n')
      (hadmits : admits remark rest) (hrest : Composed admits rest) :
      Composed admits ('/' :: '/' :: remark ++ rest)

/-- A carriage return in the remark stands right before the line feed behind it. -/
def ReturnsEnd (remark rest : List Char) : Prop :=
  ∀ before after, remark = before ++ '\r' :: after → after = [] ∧ rest ≠ []

variable {admits : List Char → List Char → Prop} {piece text rest : List Char}

/-! ### Runs of characters of one class -/

/-- The characters that begin a comment, or a lexeme other than blanks, a word and a number without a
sign. -/
def openings : List Char := ['\n', '"', '-', '.', '/', '\x7b', '\x7d', '(', ')', ',', ';', ':']

/-- A class of characters without `openings`, and with all of the blanks, digits and characters of
names or none of them. A run of it ends where a lexeme does, or at the point of a float. -/
structure RunClass (p : Char → Bool) : Prop where
  openings : ∀ c ∈ openings, p c = false
  blanks : (∀ c, isSpace c → p c) ∨ ∀ c, isSpace c → p c = false
  digits : (∀ c, isAsciiDigit c → p c) ∨ ∀ c, isAsciiDigit c → p c = false
  words : (∀ c, isNameRest c → p c) ∨ ∀ c, isNameStart c → p c = false

theorem forall_openings {p : Char → Bool} (h : openings.all (!p ·)) :
    ∀ c ∈ openings, p c = false := by
  intro c hc
  simpa using List.all_eq_true.mp h c hc

theorem isSpace_iff {c : Char} : isSpace c ↔ c ∈ [' ', '\t', '\r'] := by
  simp [isSpace, or_assoc]

theorem isSpace_of_isNameRest {c : Char} (h : isNameRest c) : isSpace c = false := by
  rw [Bool.eq_false_iff, ne_eq, isSpace_iff]
  exact fun hmem => notMem_of_isNameRest h (List.mem_append_left ['\n', '/', '"'] hmem)

theorem isNameRest_of_isSpace {c : Char} (h : isSpace c) : isNameRest c = false := by
  rw [Bool.eq_false_iff]
  intro hname
  rw [isSpace_of_isNameRest hname] at h
  cases h

theorem runClass_isSpace : RunClass isSpace where
  openings := forall_openings (by decide)
  blanks := .inl fun _ => id
  digits := .inr fun _ hc => isSpace_of_isNameRest (isNameRest_of_digit hc)
  words := .inr fun _ hc => isSpace_of_isNameRest (isNameRest_of_start hc)

theorem runClass_isAsciiDigit : RunClass isAsciiDigit where
  openings := forall_openings (by decide)
  blanks := .inr fun _ hc => isAsciiDigit_of_isNameRest (isNameRest_of_isSpace hc)
  digits := .inl fun _ => id
  words := .inr fun c hc => by
    rw [Bool.eq_false_iff]
    intro hdigit
    rw [isNameStart_of_digit hdigit] at hc
    cases hc

theorem runClass_isNameRest : RunClass isNameRest where
  openings := forall_openings (by decide)
  blanks := .inr fun _ => isNameRest_of_isSpace
  digits := .inl fun _ => isNameRest_of_digit
  words := .inl fun _ => id

theorem mem_openings (d : Delimiter) : d.char ∈ openings := by cases d <;> decide

/-- A run that does not begin with a lexeme leaves it as it is. -/
theorem IsLexeme.stays {p : Char → Bool} {c : Char} {tail : List Char} (h : IsLexeme (c :: tail))
    (hc : p c = false) (hrest : Composed admits rest) :
    Composed admits ((c :: tail ++ rest).dropWhile p) := by
  rw [List.cons_append, List.dropWhile_cons_of_neg (by simp [hc]), ← List.cons_append]
  exact .lexeme h hrest

/-- A run covers a lexeme as a whole, ends in front of it, or at the point inside it. -/
theorem IsLexeme.dropWhile {p : Char → Bool} (hp : RunClass p) (h : IsLexeme piece)
    (hrest : Composed admits rest) (hrun : Composed admits (rest.dropWhile p)) :
    Composed admits ((piece ++ rest).dropWhile p) := by
  have hcovers (hall : ∀ c ∈ piece, p c) : Composed admits ((piece ++ rest).dropWhile p) := by
    rwa [List.dropWhile_append_of_pos hall]
  cases h with
  | blanks hne hblanks =>
    rcases hp.blanks with hall | hnone
    · exact hcovers fun c hc => hall c (isSpace_iff.mpr (hblanks c hc))
    · obtain ⟨c, tail, rfl⟩ := List.exists_cons_of_ne_nil hne
      exact (IsLexeme.blanks hne hblanks).stays
        (hnone c (isSpace_iff.mpr (hblanks c List.mem_cons_self))) hrest
  | lineFeed => exact IsLexeme.lineFeed.stays (hp.openings _ (by decide)) hrest
  | string h => exact (IsLexeme.string h).stays (hp.openings _ (by decide)) hrest
  | @integer sign digits hsign hdigits =>
    have hlexeme := IsLexeme.integer hsign hdigits
    obtain ⟨hne, hall⟩ := isDigits_iff.mp hdigits
    rcases hsign with rfl | rfl
    · rcases hp.digits with hin | hout
      · exact hcovers fun c hc => hin c (hall c hc)
      · obtain ⟨c, tail, rfl⟩ := List.exists_cons_of_ne_nil hne
        exact hlexeme.stays (hout c (hall c List.mem_cons_self)) hrest
    · exact hlexeme.stays (hp.openings '-' (by decide)) hrest
  | @float sign whole fraction hsign hwhole hfraction =>
    have hlexeme := IsLexeme.float hsign hwhole hfraction
    obtain ⟨hne, hall⟩ := isDigits_iff.mp hwhole
    rcases hsign with rfl | rfl
    · rcases hp.digits with hin | hout
      · -- The run takes the whole part; the point and the fraction are lexemes by themselves.
        have hpoint : Composed admits (['.'] ++ (fraction ++ rest)) :=
          .lexeme .dot (.lexeme (.integer (.inl rfl) hfraction) hrest)
        have hsplit : [] ++ whole ++ '.' :: fraction ++ rest = whole ++ (['.'] ++ (fraction ++ rest)) := by
          simp
        rw [hsplit, List.dropWhile_append_of_pos fun c hc => hin c (hall c hc), List.singleton_append,
          List.dropWhile_cons_of_neg (by simp [hp.openings '.' (by decide)])]
        exact hpoint
      · obtain ⟨c, tail, rfl⟩ := List.exists_cons_of_ne_nil hne
        exact hlexeme.stays (hout c (hall c List.mem_cons_self)) hrest
    · exact hlexeme.stays (hp.openings '-' (by decide)) hrest
  | @word c tail hc htail =>
    rcases hp.words with hin | hout
    · refine hcovers fun d hd => hin d ?_
      rcases List.mem_cons.mp hd with rfl | hd
      · exact isNameRest_of_start hc
      · exact htail d hd
    · exact (IsLexeme.word hc htail).stays (hout c hc) hrest
  | dot => exact IsLexeme.dot.stays (hp.openings _ (by decide)) hrest
  | delimiter d => exact (IsLexeme.delimiter d).stays (hp.openings _ (mem_openings d)) hrest

/-- **Behind a run of characters a text made of lexemes is made of lexemes.** -/
theorem Composed.dropWhile {p : Char → Bool} (hp : RunClass p) (h : Composed admits text) :
    Composed admits (text.dropWhile p) := by
  induction h with
  | nil => exact .nil
  | lexeme hpiece hrest ih => exact hpiece.dropWhile hp hrest ih
  | comment hremark hend hadmits hrest =>
    have hslash : p '/' = false := hp.openings '/' (by decide)
    rw [List.cons_append, List.dropWhile_cons_of_neg (by simp [hslash]), ← List.cons_append]
    exact .comment hremark hend hadmits hrest

/-! ### The longest lexeme -/

theorem exists_digit {digits : List Char} (h : isDigits digits) :
    ∃ c tail, digits = c :: tail ∧ isAsciiDigit c := by
  obtain ⟨hne, hall⟩ := isDigits_iff.mp h
  obtain ⟨c, tail, rfl⟩ := List.exists_cons_of_ne_nil hne
  exact ⟨c, tail, rfl, hall c List.mem_cons_self⟩

/-- A lexeme is not empty, and one that begins with a point is the dot. -/
theorem IsLexeme.eq_dot (h : IsLexeme piece) :
    ∃ c tail, piece = c :: tail ∧ (c = '.' → tail = []) := by
  cases h with
  | dot => exact ⟨_, _, rfl, fun _ => rfl⟩
  | delimiter d => exact ⟨_, _, rfl, fun _ => rfl⟩
  | lineFeed => exact ⟨_, _, rfl, nofun⟩
  | string => exact ⟨_, _, rfl, nofun⟩
  | blanks hne hblanks =>
    obtain ⟨c, tail, rfl⟩ := List.exists_cons_of_ne_nil hne
    refine ⟨c, tail, rfl, ?_⟩
    rintro rfl
    exact absurd (hblanks _ List.mem_cons_self) (by decide)
  | @integer sign digits hsign hdigits =>
    obtain ⟨c, tail, rfl, hc⟩ := exists_digit hdigits
    rcases hsign with rfl | rfl
    · refine ⟨c, tail, rfl, ?_⟩
      rintro rfl
      exact absurd hc (by decide)
    · exact ⟨_, _, rfl, nofun⟩
  | @float sign whole fraction hsign hwhole hfraction =>
    obtain ⟨c, tail, rfl, hc⟩ := exists_digit hwhole
    rcases hsign with rfl | rfl
    · refine ⟨c, _, rfl, ?_⟩
      rintro rfl
      exact absurd hc (by decide)
    · exact ⟨_, _, rfl, nofun⟩
  | @word c tail hc =>
    refine ⟨c, tail, rfl, ?_⟩
    rintro rfl
    exact absurd hc (by decide)

theorem Composed.of_dot (h : Composed admits ('.' :: rest)) : Composed admits rest := by
  generalize htext : '.' :: rest = text at h
  cases h with
  | nil => cases htext
  | comment => cases htext
  | lexeme hpiece hrest =>
    obtain ⟨c, tail, rfl, hdot⟩ := hpiece.eq_dot
    rw [List.cons_append, List.cons.injEq] at htext
    obtain ⟨rfl, rfl⟩ := htext
    rwa [hdot rfl]

/-- A number reads on over a point only with a digit behind it. -/
theorem Composed.unsigned? (h : Composed admits text) (hne : text.takeWhile isAsciiDigit ≠ [])
    (sign : List Char) : ∃ l, Lexeme.unsigned? sign text = some l ∧ Composed admits l.rest := by
  have hafter := h.dropWhile runClass_isAsciiDigit
  unfold Lexeme.unsigned?
  split
  · exact absurd ‹_› hne
  · dsimp only
    split
    next fraction after hfraction =>
      refine ⟨_, rfl, ?_⟩
      unfold fraction? at hfraction
      split at hfraction
      next tail hpoint =>
        split at hfraction
        · cases hfraction
        · cases hfraction
          rw [hpoint] at hafter
          exact hafter.of_dot.dropWhile runClass_isAsciiDigit
      next => cases hfraction
    next => exact ⟨_, rfl, hafter⟩

/-- A number at the front, with the digits and the point behind it that belong to it. -/
theorem Composed.number {sign digits : List Char} (hsign : sign = [] ∨ sign = ['-'])
    (hdigits : isDigits digits) (h : Composed admits (digits ++ rest)) :
    ∃ l, first? (sign ++ digits ++ rest) = some l ∧ Composed admits l.rest := by
  have hne : (digits ++ rest).takeWhile isAsciiDigit ≠ [] := by
    obtain ⟨c, tail, rfl, hc⟩ := exists_digit hdigits
    simp [hc]
  obtain ⟨l, hread, hmore⟩ := h.unsigned? hne sign
  exact ⟨l, first?_number hsign hdigits hread, hmore⟩

/-- In front of a text made of lexemes a lexeme may be read as a longer one, but what is left is made
of lexemes too. -/
theorem IsLexeme.first? (h : IsLexeme piece) (hrest : Composed admits rest) :
    ∃ l, Lexeme.first? (piece ++ rest) = some l ∧ Composed admits l.rest := by
  cases h with
  | blanks hne hblanks =>
    obtain ⟨c, tail, rfl⟩ := List.exists_cons_of_ne_nil hne
    have hspace : ∀ d ∈ c :: tail, isSpace d := fun d hd => isSpace_iff.mpr (hblanks d hd)
    refine ⟨_, first?_space (hspace c List.mem_cons_self) (tail ++ rest), ?_⟩
    rw [List.dropWhile_append_of_pos fun d hd => hspace d (List.mem_cons_of_mem c hd)]
    exact hrest.dropWhile runClass_isSpace
  | lineFeed => exact ⟨⟨.newline, ['\n'], rest⟩, rfl, hrest⟩
  | string h => exact ⟨_, first?_quoted h rest, hrest⟩
  | @integer sign digits hsign hdigits =>
    exact Composed.number hsign hdigits (.lexeme (.integer (.inl rfl) hdigits) hrest)
  | @float sign whole fraction hsign hwhole hfraction =>
    have hnumber : Composed admits (whole ++ ('.' :: fraction ++ rest)) := by
      have hfloat := Composed.lexeme (.float (.inl rfl) hwhole hfraction) hrest
      rwa [List.nil_append, List.append_assoc] at hfloat
    have hfirst := Composed.number hsign hwhole hnumber
    rwa [← List.append_assoc] at hfirst
  | @word c tail hc htail =>
    have hsplit : c :: tail ++ rest = c :: (tail ++ rest).takeWhile isNameRest ++
        (tail ++ rest).dropWhile isNameRest := by
      rw [List.cons_append, List.cons_append, List.takeWhile_append_dropWhile]
    refine ⟨_, hsplit ▸ first?_word hc (forall_takeWhile _ (tail ++ rest))
      (head?_dropWhile _ (tail ++ rest)), ?_⟩
    rw [List.dropWhile_append_of_pos htail]
    exact hrest.dropWhile runClass_isNameRest
  | dot => exact ⟨_, first?_dot rest, hrest⟩
  | delimiter d => exact ⟨_, first?_mark d rest, hrest⟩

/-! ### Comments -/

/-- A comment at the front of a text, with a carriage return that no line feed follows. -/
def StrayReturn (text : List Char) : Prop :=
  ∃ remark rest, text = '/' :: '/' :: remark ++ rest ∧ '\n' ∉ remark ∧ (∀ c ∈ rest.head?, c = '\n') ∧
    ¬ ReturnsEnd remark rest

theorem first?_slash (h : comment? ('/' :: text) = none) : first? ('/' :: text) = none := by
  have hblanks : blanks? ('/' :: text) = none := rfl
  have hnewline : newline? ('/' :: text) = none := rfl
  rw [first?, hblanks, hnewline, h]
  rfl

section Remark

variable {remark : List Char} (hremark : '\n' ∉ remark) (hend : ∀ c ∈ rest.head?, c = '\n')
include hremark hend

/-- A comment whose carriage return stands right before a line feed is read without it. -/
theorem ReturnsEnd.first? (h : ReturnsEnd remark rest) (hrest : Composed admits rest) :
    ∃ l, Lexeme.first? ('/' :: '/' :: remark ++ rest) = some l ∧ Composed admits l.rest := by
  by_cases hmem : '\r' ∈ remark
  · obtain ⟨before, after, rfl, hbefore⟩ := List.eq_append_cons_of_mem hmem
    obtain ⟨rfl, hne⟩ := h before after rfl
    obtain ⟨c, more, rfl⟩ := List.exists_cons_of_ne_nil hne
    obtain rfl : c = '\n' := hend c rfl
    have hrun : ∀ c ∈ before, isLineEnd c = false := fun c hc =>
      isLineEnd_eq_false_iff.mpr ⟨fun hfeed => hremark (List.mem_append_left _ (hfeed ▸ hc)),
        fun hreturn => hbefore (hreturn ▸ hc)⟩
    have hstop : ∀ c ∈ ('\r' :: '\n' :: more).head?, isLineEnd c := by
      rintro c ⟨⟩
      rfl
    have hfirst := first?_comment hrun hstop rfl
    have hblank : IsLexeme ['\r'] := .blanks nofun (by simp)
    exact ⟨_, by simpa using hfirst, .lexeme hblank hrest⟩
  · have hrun : ∀ c ∈ remark, isLineEnd c = false := fun c hc =>
      isLineEnd_eq_false_iff.mpr ⟨fun hfeed => hremark (hfeed ▸ hc), fun hreturn => hmem (hreturn ▸ hc)⟩
    exact ⟨_, first?_remark hrun hend, hrest⟩

/-- Any other carriage return in a remark leaves the comment unread. -/
theorem first?_stray (h : ¬ ReturnsEnd remark rest) :
    Lexeme.first? ('/' :: '/' :: remark ++ rest) = none := by
  by_cases hmem : '\r' ∈ remark
  · obtain ⟨before, after, rfl, hbefore⟩ := List.eq_append_cons_of_mem hmem
    have hrun : ∀ c ∈ before, (!isLineEnd c) = true := fun c hc => by
      rw [isLineEnd_eq_false_iff.mpr ⟨fun hfeed => hremark (List.mem_append_left _ (hfeed ▸ hc)),
        fun hreturn => hbefore (hreturn ▸ hc)⟩]
      rfl
    have hstop : ∀ c ∈ ('\r' :: (after ++ rest)).head?, (!isLineEnd c) = false := by
      rintro c ⟨⟩
      rfl
    have hafter : ∀ more, after ++ rest ≠ '\n' :: more := by
      intro more hmore
      cases after with
      | cons c after =>
        obtain ⟨rfl, -⟩ := List.cons.inj hmore
        exact hremark (by simp)
      | nil =>
        -- The only carriage return is the last character, and a line feed is behind it.
        refine h fun before' after' hsame => ?_
        obtain ⟨-, -, rfl⟩ := (List.append_cons_inj_of_notMem hbefore List.not_mem_nil).mp hsame
        refine ⟨rfl, ?_⟩
        rintro rfl
        cases hmore
    have hcomment : comment? ('/' :: '/' :: (before ++ '\r' :: after) ++ rest) = none := by
      rw [List.cons_append, List.cons_append, List.append_assoc, List.cons_append, comment?,
        dropWhile_run hrun hstop, endsComment, if_neg Bool.false_ne_true]
      exact hafter
    exact first?_slash hcomment
  · exact absurd (fun before after hsame => absurd (by simp [hsame]) hmem) h

end Remark

/-! ### Scanning -/

/-- At the front of a text made of lexemes there is a lexeme, with such a text behind it, or a comment
that is not read. -/
theorem Composed.first? (h : Composed admits text) :
    text = [] ∨ (∃ l, Lexeme.first? text = some l ∧ Composed admits l.rest) ∨
      Lexeme.first? text = none ∧ ∃ remark rest, text = '/' :: '/' :: remark ++ rest ∧
        '\n' ∉ remark ∧ (∀ c ∈ rest.head?, c = '\n') ∧ admits remark rest ∧ ¬ ReturnsEnd remark rest := by
  cases h with
  | nil => exact .inl rfl
  | lexeme hpiece hrest => exact .inr (.inl (hpiece.first? hrest))
  | @comment remark rest hremark hend hadmits hrest =>
    by_cases hreturn : ReturnsEnd remark rest
    · exact .inr (.inl (hreturn.first? hremark hend hrest))
    · exact .inr (.inr ⟨first?_stray hremark hend hreturn,
        remark, rest, rfl, hremark, hend, hadmits, hreturn⟩)

/-- **The scan of a text made of lexemes comes to its end**, or to a comment that is not read. -/
theorem Composed.scan (h : Composed admits text) (place : Position) :
    (CoachScript.scan place text).rest = [] ∨ ∃ remark rest,
      (CoachScript.scan place text).rest = '/' :: '/' :: remark ++ rest ∧ '\n' ∉ remark ∧
        (∀ c ∈ rest.head?, c = '\n') ∧ admits remark rest ∧ ¬ ReturnsEnd remark rest := by
  induction text using Lexeme.induction generalizing place with
  | stop text hfirst =>
    rw [scan_of_none hfirst]
    rcases h.first? with hnil | ⟨l, hl, -⟩ | ⟨-, hstray⟩
    · exact .inl hnil
    · rw [hfirst] at hl
      cases hl
    · exact .inr hstray
  | step text l hfirst ih =>
    rw [rest_scan_of_first place hfirst]
    rcases h.first? with rfl | ⟨l', hl, hrest⟩ | ⟨hnone, -⟩
    · cases hfirst
    · rw [hfirst] at hl
      cases hl
      exact ih hrest _
    · rw [hfirst] at hnone
      cases hnone

/-! ### What is scanned is made of lexemes -/

/-- A comment is read up to the end of the text, to a line feed, or to a carriage return in front of
one. -/
theorem endsComment_cases (hstop : ∀ c ∈ rest.head?, isLineEnd c) (hends : endsComment rest) :
    rest = [] ∨ (∃ more, rest = '\n' :: more) ∨ ∃ more, rest = '\r' :: '\n' :: more := by
  unfold endsComment at hends
  split at hends
  next more => exact .inr (.inr ⟨more, rfl⟩)
  next => cases hends
  next hfeed hreturn =>
    cases rest with
    | nil => exact .inl rfl
    | cons c more =>
      have hend := hstop c rfl
      simp only [isLineEnd, Bool.or_eq_true, beq_iff_eq] at hend
      rcases hend with rfl | rfl
      · exact .inr (.inl ⟨more, rfl⟩)
      · exact absurd rfl (hreturn more)

/-- A remark without carriage returns meets the condition on them. -/
theorem returnsEnd_of_not_mem {remark : List Char} (h : '\r' ∉ remark) : ReturnsEnd remark rest :=
  fun before after hsame => absurd (by simp [hsame]) h

/-- What begins with a lexeme, and has a text made of lexemes behind it, is made of lexemes. -/
theorem composed_of_first {l : Lexeme} (h : Lexeme.first? text = some l)
    (hrest : Composed ReturnsEnd l.rest) : Composed ReturnsEnd text := by
  rw [← text_append_rest h]
  cases isFirst_of_first h with
  | blanks hne hrun => exact .lexeme (.blanks hne fun c hc => isSpace_iff.mp (hrun c hc)) hrest
  | newline => exact .lexeme .lineFeed hrest
  | string hinside => exact .lexeme (.string hinside) hrest
  | integer hsign hdigits => exact .lexeme (.integer hsign hdigits) hrest
  | float hsign hwhole hfraction => exact .lexeme (.float hsign hwhole hfraction) hrest
  | word hc htext => exact .lexeme (.word hc htext) hrest
  | dot => exact .lexeme .dot hrest
  | delimiter d => exact .lexeme (.delimiter d) hrest
  | @comment remark rest hremark hstop hends =>
    have hfeed : '\n' ∉ remark := fun hmem => nomatch hremark _ hmem
    have hreturn : '\r' ∉ remark := fun hmem => nomatch hremark _ hmem
    rcases endsComment_cases hstop hends with rfl | ⟨more, rfl⟩ | ⟨more, rfl⟩
    · exact .comment hfeed nofun (returnsEnd_of_not_mem hreturn) hrest
    · exact .comment hfeed (by rintro c ⟨⟩; rfl) (returnsEnd_of_not_mem hreturn) hrest
    · -- The carriage return was read as a blank, but it belongs to the remark.
      have hmore : Composed ReturnsEnd ('\n' :: more) := hrest.dropWhile runClass_isSpace
      have hreturns : ReturnsEnd (remark ++ ['\r']) ('\n' :: more) := by
        intro before after hsame
        obtain ⟨-, -, rfl⟩ := (List.append_cons_inj_of_notMem hreturn List.not_mem_nil).mp hsame
        exact ⟨rfl, nofun⟩
      have hcomment := Composed.comment (by simp [hfeed]) (by rintro c ⟨⟩; rfl) hreturns hmore
      simpa using hcomment

theorem composed_of_scan {place : Position} (h : (scan place text).rest = []) :
    Composed ReturnsEnd text := by
  induction text using Lexeme.induction generalizing place with
  | stop text hfirst =>
    rw [scan_of_none hfirst] at h
    cases h
    exact .nil
  | step text l hfirst ih =>
    rw [rest_scan_of_first place hfirst] at h
    exact composed_of_first hfirst (ih h)

/-- **A text is scanned to its end just if it is made of lexemes and every carriage return in its comments
stands right before the line feed.** Nothing but another carriage return in a comment keeps a text that
is made of lexemes from being scanned: the scan stops at that comment. -/
theorem tokens?_iff_composed (text : String) :
    ((∃ ts, tokens? text = .ok ts) ↔ Composed ReturnsEnd text.toList) ∧
      (Composed (fun _ _ => True) text.toList → ∀ e, tokens? text = .error e → StrayReturn e.rest) := by
  refine ⟨⟨?_, fun h => ?_⟩, fun h e he => ?_⟩
  · rintro ⟨ts, hts⟩
    exact composed_of_scan (tokens?_eq_ok_iff.mp hts).1
  · rcases h.scan .start with hend | ⟨remark, rest, -, -, -, hreturn, hnot⟩
    · exact ⟨_, tokens?_eq_ok_iff.mpr ⟨hend, rfl⟩⟩
    · exact absurd hreturn hnot
  · obtain ⟨hne, hrest, -⟩ := tokens?_eq_error_iff.mp he
    rw [← hrest] at hne ⊢
    rcases h.scan .start with hend | ⟨remark, rest, hstop, hremark, hfeed, -, hnot⟩
    · exact absurd hend hne
    · exact ⟨remark, rest, hstop, hremark, hfeed, hnot⟩

/-- A remark with a carriage return inside, in front of a line feed. -/
theorem tokens?_iff_composed_return :
    let text := "TRUE // a\rb\n;"
    Composed (fun _ _ => True) text.toList ∧
      ∃ e, tokens? text = .error e ∧ e.rest = "// a\rb\n;".toList ∧ StrayReturn e.rest := by
  intro text
  have hcomposed : Composed (fun _ _ => True) text.toList := by
    have hword : IsLexeme ['T', 'R', 'U', 'E'] := .word (by decide) (List.all_eq_true.mp (by decide))
    have hblank : IsLexeme [' '] := .blanks nofun (by simp)
    have hfeed : Composed (fun _ _ => True) ['\n', ';'] :=
      .lexeme .lineFeed (.lexeme (.delimiter .semicolon) .nil)
    have hremark : '\n' ∉ [' ', 'a', '\r', 'b'] := by decide
    have hpieces : text.toList = ['T', 'R', 'U', 'E'] ++
        ([' '] ++ ('/' :: '/' :: [' ', 'a', '\r', 'b'] ++ ['\n', ';'])) := by decide +kernel
    rw [hpieces]
    exact .lexeme hword (.lexeme hblank (.comment hremark (by rintro c ⟨⟩; rfl) trivial hfeed))
  have hread : (tokens? text).toOption = none := by decide +kernel
  cases h : tokens? text with
  | ok ts => rw [h] at hread; cases hread
  | error e =>
    refine ⟨hcomposed, e, rfl, ?_, (tokens?_iff_composed text).2 hcomposed e h⟩
    rw [← (tokens?_eq_error_iff.mp h).2.1]
    decide +kernel

end CoachScript
