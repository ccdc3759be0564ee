import CoachScript.Text.Ranges

/-!
# Blank characters and trimming

* `isBlank`: white space of any script (the Unicode property `White_Space`).
* `trimStart`, `trimEnd`, `trim`: a text without the blanks at its ends.
* `isBlankText`: nothing but blanks.
-/

namespace CoachScript

/-- The blank code points. -/
def blankRanges : CodeRanges := [(0x9, 0xD), (0x20, 0x20), (0x85, 0x85), (0xA0, 0xA0),
  (0x1680, 0x1680), (0x2000, 0x200A), (0x2028, 0x2029), (0x202F, 0x202F), (0x205F, 0x205F),
  (0x3000, 0x3000)]

/-- White space of any script. -/
def isBlank (c : Char) : Bool := blankRanges.has c

/-- The text from its first character on that is not blank. -/
def trimStart (text : List Char) : List Char := text.dropWhile isBlank

/-- The text up to its last character that is not blank. -/
def trimEnd (text : List Char) : List Char := (text.reverse.dropWhile isBlank).reverse

/-- The text without the blanks at both ends. -/
def trim (text : List Char) : List Char := trimEnd (trimStart text)

/-- The text has no character but blanks. -/
def isBlankText (text : String) : Bool := text.toList.all isBlank

/-- A string without the blanks at both ends. -/
def trimmed (text : String) : String := String.ofList (trim text.toList)

theorem trim_nil : trim [] = [] := rfl

theorem trimStart_eq_nil_iff {text : List Char} :
    trimStart text = [] ↔ text.all isBlank = true := by
  induction text with
  | nil => simp [trimStart]
  | cons c rest ih =>
    by_cases h : isBlank c
    · simp only [trimStart, List.dropWhile_cons, h, if_true, List.all_cons, Bool.true_and]
      exact ih
    · simp [trimStart, h]

end CoachScript
