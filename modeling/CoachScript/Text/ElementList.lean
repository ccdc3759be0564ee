import CoachScript.Text.Pieces

/-!
# Lists of elements in one text

A variable can hold a list of texts, written as one text: a comma and a blank between two elements,
and a backslash before every comma and backslash inside one.

* `ElementList.encode`, `ElementList.decode`: writing and reading. The empty text is the empty
  list, so a list of one empty element cannot be told from it.
-/

namespace CoachScript.ElementList

/-- An element with its commas and backslashes escaped. -/
def escape : List Char → List Char
  | [] => []
  | c :: rest =>
    if c = '\\' ∨ c = ',' then '\\' :: c :: escape rest else c :: escape rest

/-- The text of a list. -/
def encodeChars (elements : List (List Char)) : List Char :=
  joinWith [',', ' '] (elements.map escape)

/-- Puts a character in front of the first element. -/
def extend (c : Char) : List (List Char) → List (List Char)
  | [] => [[c]]
  | e :: more => (c :: e) :: more

/-- The elements of a text that is not empty. A backslash at the end stands for nothing. -/
def split : List Char → List (List Char)
  | [] => [[]]
  | ['\\'] => [[]]
  | '\\' :: c :: rest => extend c (split rest)
  | ',' :: ' ' :: rest => [] :: split rest
  | c :: rest => extend c (split rest)

/-- The elements of a text. -/
def decodeChars (text : List Char) : List (List Char) :=
  if text.isEmpty then [] else split text

/-- The text of a list. -/
def encode (elements : List String) : String :=
  String.ofList (encodeChars (elements.map (·.toList)))

/-- The elements of a text. -/
def decode (text : String) : List String := (decodeChars text.toList).map String.ofList

end CoachScript.ElementList
