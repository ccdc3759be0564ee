import CoachScript.Eval.World
import CoachScript.Text.ElementList

/-!
# Variables and arrays

A call without a key writes and reads under its own source; a key names another source, and `NULL`
none. An array is a text with its elements written one after another; it belongs to the question
that writes it, and only that question's own value is read.
-/

namespace CoachScript.Builtin

/-- The source that a call addresses: the key at a place, or the call's own where there is none. -/
def sourceKey (call : Call) (args : List Value) (index : Nat) (w : World) :
    Except Fault (Option String) :=
  if index < args.length then call.optionalText args index "key" else .ok (some (call.source w))

/-- The source of a write and the place of its last argument: a third argument makes the second a
key. -/
def writeKey (call : Call) (args : List Value) (w : World) :
    Except Fault (Option String × Nat) :=
  if args.length = 3 then (sourceKey call args 1 w).map (·, 2)
  else .ok (some (call.source w), 1)

/-- The variables of the context that the call acts on. -/
def memory (call : Call) (w : World) : Variables Value := (call.context w).memory

/-- Writes a variable of the context that the call acts on. -/
def write (call : Call) (name : String) (key : Option String) (v : Value) (w : World) : World :=
  w.modify call.target fun c => { c with memory := c.memory.set name key v }

/-- Writes a variable; the value is what was written. -/
def set (call : Call) (args : List Value) : Action Value := do
  let name ← .check (call.text args 0 "name")
  let (key, index) ← .look (writeKey call args)
  let v := Call.value args index
  .modify (write call name key v)
  return v

/-- Reads a variable; where it has no value, a third argument or `NULL` stands in. -/
def get (call : Call) (args : List Value) (w : World) : Except Fault Value := do
  let name ← call.text args 0 "name"
  let key ← sourceKey call args 1 w
  pure (((memory call w).get? name key).getD (Call.value args 2))

/-- Appends a text to a variable. With a source it goes on from that source's own value, so that
evaluating again does not append twice. -/
def append (call : Call) (args : List Value) : Action Value := do
  let name ← .check (call.text args 0 "name")
  let (key, index) ← .look (writeKey call args)
  let more ← .check (call.text args index "text")
  let current ← .view fun w =>
    match key with
    | some source => (memory call w).own? name source
    | none => (memory call w).get? name none
  let v := Value.string ((current.getD .null).textOrEmpty ++ more)
  .modify (write call name key v)
  return v

/-- The elements of the array that the call's source keeps under a name. -/
def elements (call : Call) (name : String) (w : World) : List String :=
  match ((memory call w).own? name (call.source w)).bind Value.text? with
  | some text => ElementList.decode text
  | none => []

/-- Writes the array of the call's source. -/
def writeElements (call : Call) (name : String) (es : List String) (w : World) : World :=
  write call name (some (call.source w)) (.string (ElementList.encode es)) w

/-- Whether an element is to be added only where it is not there. -/
def uniqueFlag (call : Call) (args : List Value) : Except Fault Bool :=
  if args.length = 3 then call.boolean args 2 "unique" else .ok false

/-- Appends an element, if asked for only where it is not there; the value is the new length. -/
def arrayAdd (call : Call) (args : List Value) : Action Value := do
  let name ← .check (call.text args 0 "name")
  let element ← .check (call.text args 1 "value")
  let unique ← .check (uniqueFlag call args)
  if element.isEmpty then .fail (call.invalid "array elements cannot be empty")
  else
    let es ← .view (elements call name)
    if unique && es.contains element then return .ofInt es.length
    else
      .modify (writeElements call name (es ++ [element]))
      return .ofInt (es.length + 1)

/-- Removes every element equal to a text; the value is whether there was one. -/
def arrayRemove (call : Call) (args : List Value) : Action Value := do
  let name ← .check (call.text args 0 "name")
  let element ← .check (call.text args 1 "value")
  let es ← .view (elements call name)
  if es.contains element then
    .modify (writeElements call name (es.filter (· != element)))
    return .bool true
  else return .bool false

/-- The number of elements. -/
def arrayLength (call : Call) (args : List Value) (w : World) : Except Fault Value := do
  let name ← call.text args 0 "name"
  pure (.ofInt (elements call name w).length)

/-- Whether a text is an element. -/
def arrayContains (call : Call) (args : List Value) (w : World) : Except Fault Value := do
  let name ← call.text args 0 "name"
  let element ← call.text args 1 "value"
  pure (.bool ((elements call name w).contains element))

/-- The element at a place, counted from zero, or `NULL`. -/
def arrayGet (call : Call) (args : List Value) (w : World) : Except Fault Value := do
  let name ← call.text args 0 "name"
  let index ← call.integer args 1 "index"
  pure (.ofText? (if index < 0 then none else (elements call name w)[index.toNat]?))

/-- Removes every element. -/
def arrayClear (call : Call) (args : List Value) : Action Value := do
  let name ← .check (call.text args 0 "name")
  .modify (writeElements call name [])
  return .ofInt 0

end CoachScript.Builtin
