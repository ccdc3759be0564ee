import CoachScript.Json.Basic

/-!
# Reading JSON

`Json.read?` reads a document by the JSON grammar and nothing more: no comments, no comma at an end,
no control character inside a string, no zero in front of another digit, nothing behind the value.

A reader takes a text and returns what it read with the rest. Values nest, so `value?` has a bound
on the depth; the length of the text is one that is never reached.
-/

namespace CoachScript

namespace Json

/-- The text behind its white space. -/
def skip (text : List Char) : List Char :=
  text.dropWhile fun c => c == ' ' || c == '\n' || c == '\t' || c == '\r'

/-- The inside of a string literal up to its closing quote, and the text behind that. -/
def rawString? : List Char → Option (List Char × List Char)
  | [] => none
  | '"' :: rest => some ([], rest)
  | '\\' :: 'u' :: a :: b :: c :: d :: rest => do
    let _ ← hexFour? a b c d
    let (raw, rest) ← rawString? rest
    pure ('\\' :: 'u' :: a :: b :: c :: d :: raw, rest)
  | '\\' :: c :: rest => do
    let _ ← shortEscape? c
    let (raw, rest) ← rawString? rest
    pure ('\\' :: c :: raw, rest)
  | c :: rest =>
    if c.toNat < 32 || c == '\\' then none
    else do
      let (raw, rest) ← rawString? rest
      pure (c :: raw, rest)

/-- The digits at the front of a text, at least one. -/
def digits? (text : List Char) : Option (List Char × List Char) :=
  match text.takeWhile Char.isDigit with
  | [] => none
  | digits => some (digits, text.dropWhile Char.isDigit)

/-- The whole part of a number: one zero, or digits that begin with another. -/
def wholePart? (text : List Char) : Option (List Char × List Char) := do
  let (digits, rest) ← digits? text
  match digits with
  | '0' :: _ :: _ => none
  | _ => pure (digits, rest)

/-- The places of a number, if it has a point. -/
def places? : List Char → Option (List Char × List Char)
  | '.' :: rest => (digits? rest).map fun (digits, rest) => ('.' :: digits, rest)
  | text => some ([], text)

/-- The exponent of a number, if it has one. -/
def exponent? : List Char → Option (List Char × List Char)
  | c :: rest =>
    if c = 'e' ∨ c = 'E' then
      match rest with
      | '+' :: rest => (digits? rest).map fun (digits, rest) => (c :: '+' :: digits, rest)
      | '-' :: rest => (digits? rest).map fun (digits, rest) => (c :: '-' :: digits, rest)
      | rest => (digits? rest).map fun (digits, rest) => (c :: digits, rest)
    else some ([], c :: rest)
  | [] => some ([], [])

/-- A number literal. -/
def number? (text : List Char) : Option (List Char × List Char) := do
  let (sign, rest) := match text with
    | '-' :: rest => (['-'], rest)
    | rest => ([], rest)
  let (whole, rest) ← wholePart? rest
  let (places, rest) ← places? rest
  let (exponent, rest) ← exponent? rest
  pure (sign ++ whole ++ places ++ exponent, rest)

/-- The text behind a word that it begins with. -/
def word? (word : String) (text : List Char) : Option (List Char) :=
  if word.toList.isPrefixOf text then some (text.drop word.length) else none

mutual

/-- A value, nested at most `depth` deep in terms of the values and separators in it. -/
def value? : Nat → List Char → Option (Json × List Char)
  | 0, _ => none
  | depth + 1, text =>
    match skip text with
    | '"' :: rest => (rawString? rest).map fun (raw, rest) => (.string raw, rest)
    | '[' :: rest =>
      match skip rest with
      | ']' :: rest => some (.array [], rest)
      | rest => (elements? depth rest).map fun (es, rest) => (.array es, rest)
    | '\x7b' :: rest =>
      match skip rest with
      | '\x7d' :: rest => some (.object [], rest)
      | rest => (members? depth rest).map fun (ms, rest) => (.object ms, rest)
    | 't' :: rest => (word? "rue" rest).map fun rest => (.bool true, rest)
    | 'f' :: rest => (word? "alse" rest).map fun rest => (.bool false, rest)
    | 'n' :: rest => (word? "ull" rest).map fun rest => (.null, rest)
    | text => (number? text).map fun (literal, rest) => (.number literal, rest)

/-- The elements of an array, up to its closing bracket. -/
def elements? : Nat → List Char → Option (List Json × List Char)
  | 0, _ => none
  | depth + 1, text => do
    let (e, rest) ← value? depth text
    match skip rest with
    | ',' :: rest => (elements? depth rest).map fun (es, rest) => (e :: es, rest)
    | ']' :: rest => pure ([e], rest)
    | _ => none

/-- The members of an object, up to its closing brace. -/
def members? : Nat → List Char → Option (List (List Char × Json) × List Char)
  | 0, _ => none
  | depth + 1, text =>
    match skip text with
    | '"' :: rest => do
      let (key, rest) ← rawString? rest
      match skip rest with
      | ':' :: rest =>
        let (e, rest) ← value? depth rest
        match skip rest with
        | ',' :: rest => (members? depth rest).map fun (ms, rest) => ((key, e) :: ms, rest)
        | '\x7d' :: rest => pure ([(key, e)], rest)
        | _ => none
      | _ => none
    | _ => none

end

/-- The value of a document. -/
def read? (text : String) : Option Json :=
  match value? (text.length + 1) text.toList with
  | some (j, rest) => if (skip rest).isEmpty then some j else none
  | none => none

end Json

end CoachScript
