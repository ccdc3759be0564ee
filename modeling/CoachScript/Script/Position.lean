/-!
# Positions in a text

A `Position` counts the bytes, lines and columns behind it. Lines and columns count from one; a
column is a number of characters, an offset a number of bytes.

* `Position.advance`: the position behind a run of characters; for a concatenation it is the
  composition (`advance_append`).
-/

namespace CoachScript

/-- A place in a text. -/
structure Position where
  offset : Nat
  line : Nat
  column : Nat
deriving DecidableEq, Repr

namespace Position

/-- The beginning of a text. -/
def start : Position := ⟨0, 1, 1⟩

/-- The position behind one more character. -/
def next (p : Position) (c : Char) : Position :=
  if c = '\n' then ⟨p.offset + c.utf8Size, p.line + 1, 1⟩
  else ⟨p.offset + c.utf8Size, p.line, p.column + 1⟩

/-- The position behind a run of characters. -/
def advance (p : Position) (text : List Char) : Position := text.foldl next p

@[simp] theorem advance_nil (p : Position) : p.advance [] = p := rfl

@[simp] theorem advance_cons (p : Position) (c : Char) (text : List Char) :
    p.advance (c :: text) = (p.next c).advance text := rfl

theorem advance_append (p : Position) (s t : List Char) :
    p.advance (s ++ t) = (p.advance s).advance t := List.foldl_append

end Position

/-- The text from a byte offset on, if a character begins (or the text ends) there. -/
def dropBytes : Nat → List Char → Option (List Char)
  | 0, text => some text
  | _ + 1, [] => none
  | n + 1, c :: rest => if c.utf8Size ≤ n + 1 then dropBytes (n + 1 - c.utf8Size) rest else none

/-- The text up to a byte offset, if a character begins (or the text ends) there. -/
def takeBytes : Nat → List Char → Option (List Char)
  | 0, _ => some []
  | _ + 1, [] => none
  | n + 1, c :: rest =>
    if c.utf8Size ≤ n + 1 then (takeBytes (n + 1 - c.utf8Size) rest).map (c :: ·) else none

/-- The text between two byte offsets, if both are borders of characters. -/
def byteSlice (text : List Char) (first stop : Nat) : Option (List Char) :=
  if first ≤ stop then (dropBytes first text).bind (takeBytes (stop - first)) else none

end CoachScript
