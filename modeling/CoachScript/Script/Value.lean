/-!
# Values

What an expression evaluates to. A number keeps the digits it was written with, so a value can be
written back exactly; `Decimal` gives the number that the digits mean.

* `Value.text?`: the text of a value; `NULL` has none.
* `Value.source`: a value as it is written in a script.
* `Kind`: the sorts of expressions, by the names that messages use.
-/

namespace CoachScript

/-- A literal value. -/
inductive Value where
  | integer (digits : String)
  | float (digits : String)
  | bool (b : Bool)
  | string (text : String)
  | null
deriving DecidableEq, Repr

instance : Inhabited Value := ⟨.null⟩

/-- The sorts of expressions. -/
inductive Kind where
  | call
  | integer
  | float
  | bool
  | string
  | null
deriving DecidableEq, Repr

/-- The name of a sort in messages. -/
def Kind.name : Kind → String
  | .call => "MethodCall"
  | .integer => "Integer"
  | .float => "Float"
  | .bool => "Bool"
  | .string => "String"
  | .null => "Null"

/-- The truth values as they are written. -/
def boolText (b : Bool) : String := if b then "TRUE" else "FALSE"

/-- A text inside a string literal: quotes and backslashes are escaped, all else is as it is. -/
def escapeString : List Char → List Char
  | [] => []
  | c :: rest =>
    if c = '"' ∨ c = '\\' then '\\' :: c :: escapeString rest else c :: escapeString rest

namespace Value

/-- The integer value of a number. -/
def ofInt (n : Int) : Value := .integer (toString n)

/-- The string value of a text, or `NULL`. -/
def ofText? : Option String → Value
  | some text => .string text
  | none => .null

/-- The sort of a value. -/
def kind : Value → Kind
  | .integer _ => .integer
  | .float _ => .float
  | .bool _ => .bool
  | .string _ => .string
  | .null => .null

/-- The text of a value; `NULL` has none. -/
def text? : Value → Option String
  | .integer digits => some digits
  | .float digits => some digits
  | .bool b => some (boolText b)
  | .string text => some text
  | .null => none

/-- The text of a value, empty for `NULL`. -/
def textOrEmpty (v : Value) : String := v.text?.getD ""

/-- The truth value that a value is. -/
def bool? : Value → Option Bool
  | .bool b => some b
  | _ => none

/-- The value as it is written in a script. -/
def source : Value → List Char
  | .integer digits => digits.toList
  | .float digits => digits.toList
  | .bool b => (boolText b).toList
  | .string text => '"' :: escapeString text.toList ++ ['"']
  | .null => "NULL".toList

end Value

end CoachScript
