import CoachScript.Text.CaseTables

/-!
# Small letters

`lowercase` writes a text in small letters, in full: one capital has a small form of two
characters (`İ`), and a capital sigma at the end of a word becomes `ς`, elsewhere `σ`.

* `smallForm`: the small form of one character, taken alone.
* `endsWord`: the sigma between these two texts is the last letter of its word.
-/

namespace CoachScript

/-- The character has an upper, lower or title form. -/
def isCased (c : Char) : Bool := casedRanges.has c

/-- The character is passed over when the case of its neighbour is sought. -/
def isCaseIgnorable (c : Char) : Bool := caseIgnorableRanges.has c

/-- The small letter that a run gives to a capital in it. -/
def smallInRun (code : Nat) (run : Nat × Nat × Nat × Nat) : Option Nat :=
  let (first, last, step, small) := run
  if first ≤ code ∧ code ≤ last ∧ (code - first) % step = 0 then some (small + (code - first))
  else none

/-- The small form of one character, taken alone. -/
def smallForm (c : Char) : List Char :=
  if c.toNat < 128 then [c.toLower]
  else if c = '\u0130' then ['i', '\u0307']
  else
    match smallLetterRuns.findSome? (smallInRun c.toNat) with
    | some code => [Char.ofNat code]
    | none => [c]

/-- The first character that counts for case, if any, is cased. -/
def casedNext (text : List Char) : Bool :=
  match text.dropWhile isCaseIgnorable with
  | [] => false
  | c :: _ => isCased c

/-- A sigma after `before` (nearest first) and before `after` is the last letter of its word. -/
def endsWord (before after : List Char) : Bool := casedNext before && !casedNext after

/-- The small letters of a text that follows `before` (nearest first). -/
def lowercaseAfter (before : List Char) : List Char → List Char
  | [] => []
  | c :: after =>
    (if c = 'Σ' then [if endsWord before after then 'ς' else 'σ'] else smallForm c) ++
      lowercaseAfter (c :: before) after

/-- The text in small letters. -/
def lowercase (text : String) : String := String.ofList (lowercaseAfter [] text.toList)

/-- The texts are equal up to the case of ASCII letters. -/
def equalAsciiCase (s t : String) : Bool := s.toList.map Char.toLower == t.toList.map Char.toLower

end CoachScript
