import CoachScript.Proofs.Cache.Entries
import CoachScript.Proofs.Engine.Reachable
import CoachScript.Proofs.Grammar.Rendering
import CoachScript.Proofs.Text.Blank
import Mathlib.Data.List.TakeWhile

/-!
# Reading through the cache and reading

For the cache a text is blank if it has only blanks of any script. The scanner knows fewer: space, tab,
carriage return and line feed.

* `Lexeme.isLayout`, `Lexeme.first?_blank`: any other blank begins no lexeme.
* `scan_blank`: the scan of a blank text stops at the first such character, without a word.
* `readListing_blank_iff`: a blank text is read just if it has none.
* **`ListingCache.read_after`**: after any history the cache gives what reading gives, but for blank
  texts that are not read.
-/

namespace CoachScript

/-! ### Blanks -/

namespace Lexeme

/-- The blanks that a script may have between its words. -/
def isLayout (c : Char) : Bool := isSpace c || c == '\n'

theorem isLayout_iff {c : Char} : isLayout c ↔ c ∈ [' ', '\t', '\r', '\n'] := by
  simp [isLayout, isSpace, or_assoc]

theorem isLayout_of_isSpace {c : Char} (h : isSpace c) : isLayout c := by
  rw [isLayout, h, Bool.true_or]

theorem dropWhile_isSpace (text : List Char) :
    (text.dropWhile isSpace).dropWhile isLayout = text.dropWhile isLayout := by
  induction text with
  | nil => rfl
  | cons c rest ih =>
    cases hc : isSpace c with
    | true =>
      rw [List.dropWhile_cons_of_pos hc, List.dropWhile_cons_of_pos (isLayout_of_isSpace hc), ih]
    | false => rw [List.dropWhile_cons_of_neg (by simp [hc])]

/-- The character begins no number, mark or word, and nothing that is quoted or a remark. -/
def beginsNothing (c : Char) : Bool :=
  !isNameStart c && !isAsciiDigit c && (Delimiter.ofChar? c).isNone &&
    (c != '-' && c != '.' && c != '/' && c != '"')

/-- A blank that is no layout begins no lexeme. -/
theorem first?_blank {c : Char} (hblank : isBlank c) (hlayout : isLayout c = false)
    (rest : List Char) : first? (c :: rest) = none := by
  have hblanks : ∀ d : Char, isBlank d → isLayout d || beginsNothing d := fun d =>
    blank_induction (p := fun d => isLayout d || beginsNothing d) (by decide +kernel)
  have hnothing := hblanks c hblank
  rw [hlayout, Bool.false_or] at hnothing
  simp only [beginsNothing, Bool.and_eq_true, Bool.not_eq_true', Option.isNone_iff_eq_none,
    bne_iff_ne] at hnothing
  obtain ⟨⟨⟨hname, hdigit⟩, hmark⟩, ⟨⟨hminus, hdot⟩, hslash⟩, hquote⟩ := hnothing
  have hothers : c ∉ [' ', '\t', '\r', '\n', '/', '"'] := by
    simp only [isLayout, isSpace, Bool.or_eq_false_iff, beq_eq_false_iff_ne] at hlayout
    simp [hlayout, hslash, hquote]
  have hnumber : number? (c :: rest) = none := by
    simp [number?, unsigned?, hdigit, hminus]
  have hmarks : mark? (c :: rest) = none := by
    simp [mark?, hdot, hmark]
  have hword : word? (c :: rest) = none := by
    simp [word?, hname]
  rw [first?_cons hothers, hnumber, hmarks, hword]
  rfl

end Lexeme

/-- **The scan of a blank text stops at the first character that is no layout**, without a word. -/
theorem scan_blank (place : Position) {text : List Char} (h : text.all isBlank) :
    (scan place text).rest = text.dropWhile Lexeme.isLayout ∧ (scan place text).words = [] := by
  induction hn : text.length using Nat.strongRecOn generalizing place text with
  | ind n ih =>
    cases text with
    | nil =>
      rw [scan_of_none rfl]
      exact ⟨rfl, rfl⟩
    | cons c rest =>
      rw [List.all_cons, Bool.and_eq_true] at h
      -- What is left behind a lexeme is blank and shorter.
      have hmore (l : Lexeme) (hfirst : Lexeme.first? (c :: rest) = some l)
          (htrivia : l.token.isTrivia) (hblank : l.rest.all isBlank) :
          (scan place (c :: rest)).rest = l.rest.dropWhile Lexeme.isLayout ∧
            (scan place (c :: rest)).words = [] := by
        obtain ⟨hrest, hwords⟩ :=
          ih l.rest.length (hn ▸ Lexeme.length_rest_lt hfirst) (place.advance l.text) hblank rfl
        rw [rest_scan_of_first place hfirst, words_scan_of_first place hfirst, htrivia, hrest, hwords]
        exact ⟨rfl, rfl⟩
      by_cases hspace : Lexeme.isSpace c
      · have hrun := hmore _ (Lexeme.first?_space hspace rest) rfl
          (List.all_eq_true.mpr fun d hd =>
            List.all_eq_true.mp h.2 d ((List.dropWhile_sublist _).subset hd))
        rwa [Lexeme.dropWhile_isSpace,
          ← List.dropWhile_cons_of_pos (Lexeme.isLayout_of_isSpace hspace)] at hrun
      · by_cases hfeed : c = '\n'
        · subst hfeed
          exact hmore ⟨.newline, ['\n'], rest⟩ rfl rfl h.2
        · have hlayout : Lexeme.isLayout c = false := by
            simp [Lexeme.isLayout, hspace, hfeed]
          rw [scan_of_none (Lexeme.first?_blank h.1 hlayout rest),
            List.dropWhile_cons_of_neg (by simp [hlayout])]
          exact ⟨rfl, rfl⟩

/-- A blank text without other blanks than layout has no lines; any other is not read. -/
theorem readListing_blank {text : String} (h : isBlankText text) :
    ((∀ c ∈ text.toList, Lexeme.isLayout c) → readListing text = .ok []) ∧
      (¬ (∀ c ∈ text.toList, Lexeme.isLayout c) → ∃ e, readListing text = .error e) := by
  obtain ⟨hrest, hwords⟩ := scan_blank .start h
  constructor
  · intro hall
    have hend : text.toList.dropWhile Lexeme.isLayout = [] := List.dropWhile_eq_nil_iff.mpr hall
    exact readListing_iff_scan.mpr ⟨hrest.trans hend, [], hwords.symm, rfl⟩
  · intro hother
    cases hread : readListing text with
    | error e => exact ⟨e, rfl⟩
    | ok ls =>
      obtain ⟨hend, -⟩ := readListing_iff_scan.mp hread
      rw [hrest, List.dropWhile_eq_nil_iff] at hend
      exact absurd hend hother

theorem readListing_blank_iff {text : String} (h : isBlankText text) :
    readListing text = .ok [] ↔ ∀ c ∈ text.toList, Lexeme.isLayout c := by
  obtain ⟨hlayout, hother⟩ := readListing_blank h
  refine ⟨fun hread => ?_, hlayout⟩
  by_contra hnot
  obtain ⟨e, he⟩ := hother hnot
  rw [hread] at he
  cases he

/-! ### Histories -/

namespace ListingCache

theorem coherent_empty (capacity : Nat) : (empty capacity).Coherent := by
  intro text filed h
  cases h

/-- Whatever is asked of a cache that holds what reading would give, it goes on to, if listings are
only filed under their own texts. -/
theorem Coherent.run {cache : ListingCache} (h : cache.Coherent) {q : Query}
    (hfiled : ∀ text listing, q = .file text listing → readListing text = .ok listing.lines) :
    (q.run cache).Coherent := by
  cases q with
  | read text => exact (read_coherent h text).2
  | file text listing => exact coherent_file h (hfiled text listing rfl)
  | get text | contains text => exact h
  | clear =>
    intro text filed hmem
    cases hmem

theorem Coherent.after {cache : ListingCache} (h : cache.Coherent) {history : List Query}
    (hfiled : ∀ text listing, .file text listing ∈ history → readListing text = .ok listing.lines) :
    (cache.after history).Coherent := by
  induction history generalizing cache with
  | nil => exact h
  | cons q more ih =>
    have hfirst := h.run (q := q) fun text listing hq =>
      hfiled text listing (hq ▸ List.mem_cons_self)
    exact ih hfirst fun text listing hq => hfiled text listing (List.mem_cons_of_mem q hq)

/-- **After any history the cache gives what reading gives**, the same lines or the same fault, for
every text that is not blank, and no lines for a blank one. Reading gives the same for a blank text just
if it has no other blanks than space, tab, carriage return and line feed; else it is a fault. -/
theorem read_after (capacity : Nat) (history : List Query)
    (hfiled : ∀ text listing, .file text listing ∈ history → readListing text = .ok listing.lines)
    (text : String) :
    let answer := (((empty capacity).after history).read text).1.map FiledListing.lines
    answer = (if isBlankText text then .ok [] else readListing text) ∧
      (answer = readListing text ↔
        (isBlankText text → ∀ c ∈ text.toList, c ∈ [' ', '\t', '\r', '\n'])) ∧
      (answer ≠ readListing text → ∃ e, readListing text = .error e) := by
  intro answer
  have hcoherent : ((empty capacity).after history).Coherent := (coherent_empty capacity).after hfiled
  have hanswer : answer = fresh text := (read_coherent hcoherent text).1
  unfold fresh at hanswer
  rw [hanswer]
  refine ⟨rfl, ?_, fun hne => ?_⟩
  · cases hblank : isBlankText text with
    | false => exact iff_of_true rfl nofun
    | true =>
      simp only [if_true, forall_const, ← Lexeme.isLayout_iff]
      rw [eq_comm]
      exact readListing_blank_iff hblank
  · cases hblank : isBlankText text with
    | false =>
      rw [hblank] at hne
      exact absurd rfl hne
    | true =>
      refine (readListing_blank hblank).2 fun hall => hne ?_
      rw [hblank, (readListing_blank_iff hblank).mpr hall]
      rfl

/-- A form feed alone is no text to the cache, and no layout to the scanner. -/
theorem read_formFeed :
    ((empty 1).read "\x0c").1.map FiledListing.lines = .ok [] ∧
      ∃ e, readListing "\x0c" = .error e := by
  have hblank : isBlankText "\x0c" := by decide +kernel
  have hother : "\x0c".toList.all Lexeme.isLayout = false := by decide +kernel
  refine ⟨(read_coherent (coherent_empty 1) _).1.trans (if_pos hblank), ?_⟩
  refine (readListing_blank hblank).2 fun hall => ?_
  rw [List.all_eq_true.mpr hall] at hother
  cases hother

/-- A cache with room for one listing, after another was filed, read and cleared. -/
theorem read_after_filed :
    let line : Line := ⟨.value (.bool true), "a", []⟩
    let history : List Query :=
      [.read "x", .file "TRUE : a : \x7b\x7d;" ⟨7, [line]⟩, .read " ", .clear, .read "\n"]
    let answer (text : String) :=
      (((empty 1).after history).read text).1.map FiledListing.lines
    (∀ text listing, .file text listing ∈ history → readListing text = .ok listing.lines) ∧
      answer "TRUE : a : \x7b\x7d;" = readListing "TRUE : a : \x7b\x7d;" ∧
      answer "\t\r\n" = readListing "\t\r\n" := by
  intro line history answer
  have hfiled : ∀ text listing, .file text listing ∈ history →
      readListing text = .ok listing.lines := by
    intro text listing hmem
    simp [history] at hmem
    obtain ⟨rfl, rfl⟩ := hmem
    decide +kernel
  refine ⟨hfiled, ?_, ?_⟩
  · have hwords : isBlankText "TRUE : a : \x7b\x7d;" = false := by decide +kernel
    exact (read_after 1 history hfiled _).2.1.mpr (by rw [hwords]; nofun)
  · have hall : "\t\r\n".toList.all ([' ', '\t', '\r', '\n'].contains ·) := by decide +kernel
    exact (read_after 1 history hfiled _).2.1.mpr fun _ c hc =>
      List.contains_iff_mem.mp (List.all_eq_true.mp hall c hc)

end ListingCache

end CoachScript
