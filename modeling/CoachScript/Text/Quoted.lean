import CoachScript.Text.Invisible

/-!
# Quoted text in messages

A message shows a foreign text between double quotes, spelled so that every character can be seen.

* `spelling`: how one character is written inside the quotes: a backslash and a letter for the
  common ones, `\u{…}` with the code point in hexadecimal for all that do not show.
* `quoted`: the whole text.
-/

namespace CoachScript

/-- The spelling of a code point by its number. -/
def spellCode (c : Char) : List Char :=
  ['\\', 'u', '\x7b'] ++ Nat.toDigits 16 c.toNat ++ ['\x7d']

/-- The spelling of one character inside the quotes. -/
def spelling (c : Char) : List Char :=
  match c with
  | '\x00' => ['\\', '0']
  | '\t' => ['\\', 't']
  | '\r' => ['\\', 'r']
  | '\n' => ['\\', 'n']
  | '\\' => ['\\', '\\']
  | '"' => ['\\', '"']
  | c => if isInvisible c then spellCode c else [c]

/-- The text between double quotes. -/
def quoted (text : String) : String :=
  String.ofList (['"'] ++ text.toList.flatMap spelling ++ ['"'])

end CoachScript
