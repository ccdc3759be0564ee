/-!
# Texts cut at a separator

`pieces sep text` cuts a text at every `sep`. There is always one piece more than there are
separators, so the empty text has one empty piece; `joinWith` puts the pieces together again.
-/

namespace CoachScript

/-- The pieces of a text between the occurrences of a separator. -/
def pieces (sep : Char) : List Char → List (List Char)
  | [] => [[]]
  | c :: rest =>
    if c = sep then [] :: pieces sep rest
    else
      match pieces sep rest with
      | [] => [[c]]
      | piece :: more => (c :: piece) :: more

/-- The texts one after another, with `sep` in between. -/
def joinWith (sep : List Char) : List (List Char) → List Char
  | [] => []
  | [piece] => piece
  | piece :: more => piece ++ sep ++ joinWith sep more

theorem pieces_ne_nil (sep : Char) (text : List Char) : pieces sep text ≠ [] := by
  cases text with
  | nil => simp [pieces]
  | cons c rest => by_cases h : c = sep <;> simp [pieces, h]; split <;> simp

theorem joinWith_pieces (sep : Char) (text : List Char) :
    joinWith [sep] (pieces sep text) = text := by
  induction text with
  | nil => rfl
  | cons c rest ih =>
    have hne := pieces_ne_nil sep rest
    cases hp : pieces sep rest with
    | nil => exact absurd hp hne
    | cons piece more =>
      rw [hp] at ih
      by_cases h : c = sep
      · simp [pieces, h, hp, joinWith, ih]
      · cases more with
        | nil => simp_all [pieces, joinWith]
        | cons next more => simp_all [pieces, joinWith]

end CoachScript
