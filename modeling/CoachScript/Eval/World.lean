import CoachScript.Eval.Command
import CoachScript.Eval.Fault
import CoachScript.State.Contexts

/-!
# The world of a script

* `World`: all that a script can read or change: the contexts, the host, the log.
* `Scene`: what stays fixed while a question runs: the active context, the coach, the question, the
  commands.
* `Call`: one use of a command, with the context it acts on. `Call.source` is the name under which
  its writes are kept: the question, qualified with the active context for writes elsewhere, so
  that two instances never take back each other's.
* `Action`: a step that may change the world and may fault. **What was changed before a fault stays
  changed.** A command is put together from steps that check (`check`, `look`), read (`view`) or
  write (`modify`), in the order in which it takes them.
* `Call.value`, `text`, `number`, …: the arguments of a call, checked for their kind.
-/

namespace CoachScript

/-- A message that a script wrote. -/
structure LogRecord where
  context : String
  question : String
  message : String
deriving DecidableEq, Repr

/-- All that a script can read or change. -/
structure World where
  contexts : Contexts
  host : Host
  log : Array LogRecord

/-- What stays fixed while a question runs. -/
structure Scene where
  active : ContextId
  coach : Coach
  question : String
  commands : CommandTable

/-- One use of a command. -/
structure Call where
  name : String
  scene : Scene
  target : ContextId

/-- A step that may change the world and may fault. -/
abbrev Action (α : Type) := World → Except Fault α × World

namespace Action

variable {α β : Type}

/-- The step that does nothing. -/
def pure (a : α) : Action α := fun w => (.ok a, w)

/-- The step that faults. -/
def fail (e : Fault) : Action α := fun w => (.error e, w)

/-- One step and, unless it faults, the step that its value asks for. -/
def bind (x : Action α) (f : α → Action β) : Action β := fun w =>
  match x w with
  | (.ok a, w) => f a w
  | (.error e, w) => (.error e, w)

/-- A step that only checks, without the world. -/
def check (r : Except Fault α) : Action α := fun w => (r, w)

/-- A step that only looks at the world, and may fault over it. -/
def look (f : World → Except Fault α) : Action α := fun w => (f w, w)

/-- A step that reads the world. -/
def view (f : World → α) : Action α := fun w => (.ok (f w), w)

/-- A step that changes the world. -/
def modify (f : World → World) : Action Unit := fun w => (.ok (), f w)

instance : Monad Action where
  pure := Action.pure
  bind := Action.bind

end Action

/-- The name under which a question's writes outside its own context are kept. -/
def qualifiedSource (contextName question : String) : String := contextName ++ "/" ++ question

namespace World

/-- The context of a number. -/
def get (w : World) (id : ContextId) : Context := w.contexts.get id

/-- Changes one context. -/
def modify (w : World) (id : ContextId) (f : Context → Context) : World :=
  { w with contexts := w.contexts.modify id f }

end World

namespace Call

/-- The context that the call acts on. -/
def context (call : Call) (w : World) : Context := w.get call.target

/-- The name under which the call's writes are kept. -/
def source (call : Call) (w : World) : String :=
  if call.target = call.scene.active then call.scene.question
  else qualifiedSource (w.get call.scene.active).name call.scene.question

/-- The fault of a value that the command cannot take. -/
def invalid (call : Call) (problem : String) : Fault := .invalidValue call.name problem

/-- The fault of a text that is not what a parameter wants. -/
def notA (call : Call) (wanted parameter text : String) : Fault :=
  call.invalid (String.join ["parameter ", parameter, " must be ", wanted, ", got ", quoted text])

/-! ### Arguments -/

/-- The kinds that stand for a text. -/
def textKinds : List Kind := [.string, .integer, .float]

/-- The kinds that can stand for a number. -/
def numberKinds : List Kind := [.integer, .float, .string]

/-- The kinds that stand for an optional text. -/
def optionalTextKinds : List Kind := [.string, .integer, .null]

/-- The argument at a place; a missing one is `NULL`. -/
def value (args : List Value) (index : Nat) : Value := args[index]?.getD .null

/-- An argument of one of the allowed kinds. -/
def ofKind (call : Call) (args : List Value) (index : Nat) (parameter : String)
    (allowed : List Kind) : Except Fault Value :=
  let v := value args index
  if v.kind ∈ allowed then .ok v
  else .error (.argumentKind call.name parameter allowed v.kind)

/-- A text: a string or a number as written. -/
def text (call : Call) (args : List Value) (index : Nat) (parameter : String) :
    Except Fault String :=
  (call.ofKind args index parameter textKinds).map Value.textOrEmpty

/-- A text, or nothing for `NULL`. -/
def optionalText (call : Call) (args : List Value) (index : Nat) (parameter : String) :
    Except Fault (Option String) :=
  (call.ofKind args index parameter optionalTextKinds).map Value.text?

/-- A truth value. -/
def boolean (call : Call) (args : List Value) (index : Nat) (parameter : String) :
    Except Fault Bool :=
  (call.ofKind args index parameter [.bool]).map fun v => v.bool?.getD false

/-- A decimal number. -/
def number (call : Call) (args : List Value) (index : Nat) (parameter : String) :
    Except Fault Decimal := do
  let text := (← call.ofKind args index parameter numberKinds).textOrEmpty
  match Decimal.read? text with
  | some d => pure d
  | none => throw (call.notA "a number" parameter text)

/-- The integer fits 64 bits with its sign. -/
def isWord (n : Int) : Bool := -9223372036854775808 ≤ n && n ≤ 9223372036854775807

/-- The integer that a text without blanks around it writes, if it fits 64 bits. -/
def readInteger? (text : List Char) : Option Int :=
  let (negative, digits) := Decimal.splitSign text
  if digits.isEmpty || !digits.all isAsciiDigit then none
  else
    let magnitude : Int := Decimal.ofDigits digits
    let n := if negative then -magnitude else magnitude
    if isWord n then some n else none

/-- An integer. -/
def integer (call : Call) (args : List Value) (index : Nat) (parameter : String) :
    Except Fault Int := do
  let text := (← call.ofKind args index parameter numberKinds).textOrEmpty
  match readInteger? (trim text.toList) with
  | some n => pure n
  | none => throw (call.notA "an integer" parameter text)

end Call

/-- The truth value of a condition, or the fault that it has none. -/
def truth (expression : String) (v : Value) : Except Fault Bool :=
  match v.bool? with
  | some b => .ok b
  | none => .error (.notBoolean expression v.kind)

end CoachScript
