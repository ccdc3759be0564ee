import CoachScript.Script.Value

/-!
# Expressions and lines

An expression is a value or the call of a command; a call can name a context above the active one
by a path (`Path`). A `Line` is a condition, a name and statements; a `Listing` is a sequence of
lines.

* `Expr.source`, `Line.source`: the script text of an expression and of a line. A line with exactly
  one statement is written without a block.
-/

namespace CoachScript

/-- Where a call acts, seen from the active context. -/
inductive Path where
  /-- `n` parent links up. -/
  | levels (n : Nat)
  /-- The context above which there is none. -/
  | root
deriving DecidableEq, Repr

/-- A path as the steps before a command's name. -/
def Path.source : Path → List Char
  | .levels n => (List.replicate n "parent.".toList).flatten
  | .root => "root.".toList

/-- An expression: a literal, or the call of a command. -/
inductive Expr where
  | value (v : Value)
  | call (path : Path) (name : String) (args : List Expr)

instance : Inhabited Expr := ⟨.value .null⟩

namespace Expr

mutual

/-- Equality of expressions, decided part by part. -/
def decEq : (x y : Expr) → Decidable (x = y)
  | .value v, .value w =>
    if h : v = w then isTrue (by rw [h]) else isFalse (by simpa using h)
  | .value _, .call .. => isFalse nofun
  | .call .., .value _ => isFalse nofun
  | .call p n as, .call q m bs =>
    if hp : p = q then
      if hn : n = m then
        match decEqAll as bs with
        | isTrue h => isTrue (by rw [hp, hn, h])
        | isFalse h => isFalse (by simp [h])
      else isFalse (by simp [hn])
    else isFalse (by simp [hp])

/-- Equality of argument lists, decided part by part. -/
def decEqAll : (xs ys : List Expr) → Decidable (xs = ys)
  | [], [] => isTrue rfl
  | [], _ :: _ => isFalse nofun
  | _ :: _, [] => isFalse nofun
  | x :: xs, y :: ys =>
    match decEq x y with
    | isTrue h =>
      match decEqAll xs ys with
      | isTrue hs => isTrue (by rw [h, hs])
      | isFalse hs => isFalse (by simp [hs])
    | isFalse h => isFalse (by simp [h])

end

instance : DecidableEq Expr := decEq

/-- The sort of an expression. -/
def kind : Expr → Kind
  | .value v => v.kind
  | .call .. => .call

/-- The value that a literal expression is. -/
def value? : Expr → Option Value
  | .value v => some v
  | .call .. => none

/-- The expression is a call. -/
def isCall : Expr → Bool
  | .value _ => false
  | .call .. => true

/-- The text of an expression: calls and `NULL` have none. -/
def text? (e : Expr) : Option String := e.value?.bind Value.text?

mutual

/-- The expression as it is written in a script. -/
def source : Expr → List Char
  | .value v => v.source
  | .call path name args => path.source ++ name.toList ++ ['('] ++ sourceAll args ++ [')']

/-- The arguments of a call, a comma and a blank between two. -/
def sourceAll : List Expr → List Char
  | [] => []
  | [e] => e.source
  | e :: more => e.source ++ [',', ' '] ++ sourceAll more

end

/-- The script text of an expression. -/
def render (e : Expr) : String := String.ofList e.source

end Expr

/-- A line: if the condition holds, the statements run. -/
structure Line where
  condition : Expr
  /-- At most one line of a name runs in a pass; the empty name puts no limit. -/
  name : String
  statements : List Expr
deriving DecidableEq

/-- A script as a sequence of lines. -/
abbrev Listing := List Line

namespace Line

/-- The statements of a line: one alone, or a block. -/
def body : List Expr → List Char
  | [e] => e.source
  | es => "\x7b ".toList ++ es.flatMap (fun e => e.source ++ [';', ' ']) ++ ['\x7d']

/-- The line as it is written in a script. -/
def source (l : Line) : List Char :=
  l.condition.source ++ " : ".toList ++ l.name.toList ++ " : ".toList ++ body l.statements ++ [';']

/-- The script text of a line. -/
def render (l : Line) : String := String.ofList l.source

end Line

end CoachScript
