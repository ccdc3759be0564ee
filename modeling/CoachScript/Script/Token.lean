import CoachScript.Text.Quoted

/-!
# Tokens

The words of a script. Number tokens keep the digits they were written with; a string token holds
the text that its literal stands for. Blanks, line ends and comments are tokens too
(`Token.isTrivia`), so that the tokens of a text cover it.

* `Token.text`: a token as messages show it.
* `Keyword.ofText?`, `Operator.ofSymbol?`, `Delimiter.ofSymbol?`: the closed word classes, read back
  from their names.
-/

namespace CoachScript

/-- The reserved words. -/
inductive Keyword where
  | true
  | false
  | null
deriving DecidableEq, Repr

/-- The operators: only the dot between the steps of a call's path. -/
inductive Operator where
  | dot
deriving DecidableEq, Repr

/-- The marks that frame calls, blocks and the parts of a line. -/
inductive Delimiter where
  | openBrace
  | closeBrace
  | openParen
  | closeParen
  | comma
  | semicolon
  | colon
deriving DecidableEq, Repr

/-- A word of a script. -/
inductive Token where
  | keyword (word : Keyword)
  | identifier (name : String)
  | operator (mark : Operator)
  | delimiter (mark : Delimiter)
  | string (text : String)
  | integer (digits : String)
  | float (digits : String)
  | blanks (text : String)
  | newline
  | comment (text : String)
deriving DecidableEq, Repr

namespace Keyword

/-- The spelling of a reserved word. -/
def text : Keyword → String
  | .true => "TRUE"
  | .false => "FALSE"
  | .null => "NULL"

/-- The reserved word of a spelling. -/
def ofText? (text : String) : Option Keyword :=
  [Keyword.true, .false, .null].find? (·.text == text)

end Keyword

namespace Operator

/-- The sign of an operator. -/
def symbol : Operator → String
  | .dot => "."

/-- The operator of a sign. -/
def ofSymbol? (text : String) : Option Operator := [Operator.dot].find? (·.symbol == text)

end Operator

namespace Delimiter

/-- Every delimiter. -/
def all : List Delimiter :=
  [.openBrace, .closeBrace, .openParen, .closeParen, .comma, .semicolon, .colon]

/-- The character that a delimiter is in a script. -/
def char : Delimiter → Char
  | .openBrace => '\x7b'
  | .closeBrace => '\x7d'
  | .openParen => '('
  | .closeParen => ')'
  | .comma => ','
  | .semicolon => ';'
  | .colon => ':'

/-- The delimiter that a character is. -/
def ofChar? (c : Char) : Option Delimiter := all.find? (·.char == c)

/-- The name of a delimiter as a symbol: its character, but for the closing brace a word. -/
def symbol : Delimiter → String
  | .closeBrace => "CLOSE_BRACE"
  | mark => mark.char.toString

/-- The delimiter of a symbol name. -/
def ofSymbol? (text : String) : Option Delimiter := all.find? (·.symbol == text)

theorem ofChar?_char (mark : Delimiter) : ofChar? mark.char = some mark := by
  cases mark <;> decide

end Delimiter

namespace Token

/-- The token carries layout or a remark and no meaning. -/
def isTrivia : Token → Bool
  | .blanks _ | .newline | .comment _ => Bool.true
  | _ => Bool.false

/-- The token as messages show it. -/
def text : Token → String
  | .keyword word => word.text
  | .identifier name => name
  | .operator mark => mark.symbol
  | .delimiter mark => mark.char.toString
  | .string text => quoted text
  | .integer digits => digits
  | .float digits => digits
  | .blanks text => text
  | .newline => "\n"
  | .comment text => "// " ++ text

end Token

end CoachScript
