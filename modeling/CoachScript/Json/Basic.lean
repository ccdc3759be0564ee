/-!
# JSON documents

A `Json` value keeps its scalars as they are written: a number is its literal, a string what stands
between its quotes. So a reader can refuse the number `1.0` where it wants `1`, and a string that no
one asks for need not be decoded.

* `Json.ofString`, `Json.string?`: a text as a JSON string, and back. A decoded string has no lone
  surrogates.
* `Json.natural?`: an unsigned integer literal.
* `Json.pretty`: two blanks per level, one member or element a line.
-/

namespace CoachScript

/-- A JSON value with its scalars as written. -/
inductive Json where
  | null
  | bool (b : Bool)
  | number (literal : List Char)
  | string (raw : List Char)
  | array (elements : List Json)
  | object (members : List (List Char × Json))

namespace Json

instance : Inhabited Json := ⟨.null⟩

/-! ### Scalars -/

/-- The value of a hexadecimal digit. -/
def hexValue? (c : Char) : Option Nat :=
  if '0' ≤ c ∧ c ≤ '9' then some (c.toNat - '0'.toNat)
  else if 'a' ≤ c ∧ c ≤ 'f' then some (c.toNat - 'a'.toNat + 10)
  else if 'A' ≤ c ∧ c ≤ 'F' then some (c.toNat - 'A'.toNat + 10)
  else none

/-- The number of four hexadecimal digits. -/
def hexFour? (a b c d : Char) : Option Nat := do
  let a ← hexValue? a
  let b ← hexValue? b
  let c ← hexValue? c
  let d ← hexValue? d
  pure (((a * 16 + b) * 16 + c) * 16 + d)

/-- The character of a short escape. -/
def shortEscape? : Char → Option Char
  | '"' => some '"'
  | '\\' => some '\\'
  | '/' => some '/'
  | 'b' => some '\x08'
  | 'f' => some '\x0c'
  | 'n' => some '\n'
  | 'r' => some '\r'
  | 't' => some '\t'
  | _ => none

/-- The number is the first half of a surrogate pair. -/
def isHighSurrogate (n : Nat) : Bool := 0xD800 ≤ n && n ≤ 0xDBFF

/-- The number is the second half of a surrogate pair. -/
def isLowSurrogate (n : Nat) : Bool := 0xDC00 ≤ n && n ≤ 0xDFFF

/-- The text that the inside of a string literal stands for. -/
def decodeString? : List Char → Option (List Char)
  | [] => some []
  | '\\' :: 'u' :: a :: b :: c :: d :: '\\' :: 'u' :: e :: f :: g :: h :: rest => do
    let first ← hexFour? a b c d
    if isHighSurrogate first then
      let second ← hexFour? e f g h
      if isLowSurrogate second then
        let code := 0x10000 + (first - 0xD800) * 0x400 + (second - 0xDC00)
        (decodeString? rest).map (Char.ofNat code :: ·)
      else none
    else if isLowSurrogate first then none
    else (decodeString? ('\\' :: 'u' :: e :: f :: g :: h :: rest)).map (Char.ofNat first :: ·)
  | '\\' :: 'u' :: a :: b :: c :: d :: rest => do
    let code ← hexFour? a b c d
    if isHighSurrogate code || isLowSurrogate code then none
    else (decodeString? rest).map (Char.ofNat code :: ·)
  | '\\' :: c :: rest => do
    let meant ← shortEscape? c
    (decodeString? rest).map (meant :: ·)
  | c :: rest => (decodeString? rest).map (c :: ·)

/-- The escape of a control character by its number. -/
def escapeCode (c : Char) : List Char :=
  let digits := Nat.toDigits 16 c.toNat
  ['\\', 'u'] ++ List.replicate (4 - digits.length) '0' ++ digits

/-- A character inside a string literal. -/
def escapeChar (c : Char) : List Char :=
  match c with
  | '"' => ['\\', '"']
  | '\\' => ['\\', '\\']
  | '\x08' => ['\\', 'b']
  | '\x0c' => ['\\', 'f']
  | '\n' => ['\\', 'n']
  | '\r' => ['\\', 'r']
  | '\t' => ['\\', 't']
  | c => if c.toNat < 32 then escapeCode c else [c]

/-- The JSON string of a text. -/
def ofString (text : String) : Json := .string (text.toList.flatMap escapeChar)

/-- The JSON number of an integer. -/
def ofInt (n : Int) : Json := .number (toString n).toList

/-- The JSON string of a text, or null. -/
def ofString? : Option String → Json
  | some text => ofString text
  | none => .null

/-- An object with keys that are plain text. -/
def ofMembers (members : List (String × Json)) : Json :=
  .object (members.map fun (key, value) => (key.toList.flatMap escapeChar, value))

/-- The text of a JSON string. -/
def string? : Json → Option String
  | .string raw => (decodeString? raw).map String.ofList
  | _ => none

/-- The value of an integer literal without a sign. -/
def natural? : Json → Option Nat
  | .number literal =>
    if literal.all Char.isDigit then
      some (literal.foldl (fun n c => n * 10 + (c.toNat - '0'.toNat)) 0)
    else none
  | _ => none

/-! ### Printing -/

/-- The blanks before a line of a given depth. -/
def indent (depth : Nat) : List Char := List.replicate (2 * depth) ' '

/-- A string literal around its inside. -/
def literal (raw : List Char) : List Char := '"' :: raw ++ ['"']

mutual

/-- A value over several lines, inside `depth` others. -/
def prettyAt (depth : Nat) : Json → List Char
  | .null => "null".toList
  | .bool b => (if b then "true" else "false").toList
  | .number literal => literal
  | .string raw => literal raw
  | .array [] => "[]".toList
  | .array (e :: es) =>
    "[\n".toList ++ prettyElements (depth + 1) (e :: es) ++ '\n' :: indent depth ++ [']']
  | .object [] => ['\x7b', '\x7d']
  | .object (m :: ms) =>
    '\x7b' :: '\n' :: prettyMembers (depth + 1) (m :: ms) ++ '\n' :: indent depth ++ ['\x7d']

/-- The elements of an array, a line each. -/
def prettyElements (depth : Nat) : List Json → List Char
  | [] => []
  | [e] => indent depth ++ prettyAt depth e
  | e :: es => indent depth ++ prettyAt depth e ++ ",\n".toList ++ prettyElements depth es

/-- The members of an object, a line each. -/
def prettyMembers (depth : Nat) : List (List Char × Json) → List Char
  | [] => []
  | [(key, e)] => indent depth ++ literal key ++ ": ".toList ++ prettyAt depth e
  | (key, e) :: ms =>
    indent depth ++ literal key ++ ": ".toList ++ prettyAt depth e ++ ",\n".toList ++
      prettyMembers depth ms

end

/-- A document over several lines. -/
def pretty (j : Json) : String := String.ofList (prettyAt 0 j)

end Json

end CoachScript
