import CoachScript.Script.Expr
import CoachScript.Script.Parser
import CoachScript.Script.Token

/-!
# The grammar of a line

```text
line       := expression ':' name? ':' statements
name       := identifier | string | integer
statements := '{' expression? (';' expression?)* '}' | expression | nothing
expression := call | literal
call       := path identifier '(' (expression (',' expression)*)? ')'
path       := 'root' '.' | ('parent' '.')*
literal    := string | integer | float | TRUE | FALSE | NULL
```

The terminating `;` is not part of the line. `Grammar.line` and `Grammar.expression` are the
parsers.
-/

namespace CoachScript

namespace Grammar

open CoachScript.Parser

/-- A delimiter. -/
def mark (d : Delimiter) : Parser Token Unit := asUnit (equal Token.text (.delimiter d))

/-- The name that a token is. -/
def identifier? : Token → Option String
  | .identifier name => some name
  | _ => none

/-- An identifier. -/
def identifier : Parser Token String := satisfy Token.text identifier? "identifier"

/-- The value that a literal token stands for. -/
def literal? : Token → Option Value
  | .string text => some (.string text)
  | .integer digits => some (.integer digits)
  | .float digits => some (.float digits)
  | .keyword .true => some (.bool true)
  | .keyword .false => some (.bool false)
  | .keyword .null => some .null
  | _ => none

/-- A literal. -/
def literal : Parser Token Expr :=
  map .value (satisfy Token.text literal? "literal or call")

/-- One step of a path: a given word and a dot. -/
def step (word : String) : Parser Token Unit :=
  asUnit (both (expected id identifier word) (equal Token.text (.operator .dot)))

/-- The path of a call. -/
def path : Parser Token Path :=
  choice [map (fun _ => Path.root) (step "root"),
    map (fun steps => Path.levels steps.length) (many (step "parent"))]

/-- A call whose arguments are read by `expression`. -/
def call (expression : Parser Token Expr) : Parser Token Expr :=
  map (fun (path, name, _, args, _) => Expr.call path name args)
    (five path identifier (mark .openParen) (separatedList expression (mark .comma))
      (within "argument list" (mark .closeParen)))

/-- An expression: a call or a literal. -/
def expression : Parser Token Expr := recursive fun inner => choice [call inner, literal]

/-- The text that a token gives a line as its name. -/
def lineName? : Token → Option String
  | .identifier name => some name
  | .string text => some text
  | .integer digits => some digits
  | _ => none

/-- The name of a line. -/
def lineName : Parser Token String := satisfy Token.text lineName? "line name"

/-- Statements between braces; there may be none between two semicolons. -/
def block : Parser Token (List Expr) :=
  within "statement block"
    (delimited (mark .openBrace)
      (map (fun statements => statements.filterMap id)
        (separatedList (optional expression) (mark .semicolon)))
      (mark .closeBrace))

/-- A block, one statement, or nothing. -/
def statements : Parser Token (List Expr) :=
  choice [block, map (fun e => [e]) expression, map (fun _ => []) (finished Token.text)]

/-- A whole line. -/
def line : Parser Token Line :=
  within "script line"
    (map (fun ((condition, _, name, _, statements), _) => ⟨condition, name.getD "", statements⟩)
      (both
        (five (within "condition" expression) (mark .colon) (optional lineName) (mark .colon)
          statements)
        (finished Token.text)))

end Grammar

end CoachScript
