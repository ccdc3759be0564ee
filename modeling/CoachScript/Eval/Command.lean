/-!
# Commands

* `Arity`: the argument counts that a command accepts.
* `Command`: the commands of the script language; `Command.name` and `Command.arity` describe them.
* `CommandTable`: which command a name stands for. `CommandTable.builtin` holds each command under
  its own name.
-/

namespace CoachScript

/-- Accepted argument counts. -/
inductive Arity where
  | exactly (n : Nat)
  | range (least most : Nat)
  | atLeast (n : Nat)
deriving DecidableEq, Repr

namespace Arity

/-- The count is accepted. -/
def accepts : Arity → Nat → Bool
  | .exactly n, count => count == n
  | .range least most, count => least ≤ count && count ≤ most
  | .atLeast n, count => n ≤ count

/-- The wording of an arity. -/
def text : Arity → String
  | .exactly n => String.join ["exactly ", toString n]
  | .range least most => String.join [toString least, " to ", toString most]
  | .atLeast n => String.join ["at least ", toString n]

end Arity

/-- What a comparison asks of the order of two numbers. -/
inductive NumberTest where
  | greater
  | greaterOrEqual
  | less
  | lessOrEqual
  | equal
deriving DecidableEq, Repr

/-- The order of two numbers passes the test. -/
def NumberTest.passes : NumberTest → Ordering → Bool
  | .greater, o => o == .gt
  | .greaterOrEqual, o => o != .lt
  | .less, o => o == .lt
  | .lessOrEqual, o => o != .gt
  | .equal, o => o == .eq

/-- The commands. -/
inductive Command where
  | all
  | any
  | negate
  | choose
  | equals
  | compare (test : NumberTest)
  | addScore
  | capScore
  | getScore
  | set
  | get
  | append
  | isSelected
  | isAnswered
  | isHidden
  | setHidden
  | setHiddenRange
  | arrayAdd
  | arrayRemove
  | arrayLength
  | arrayContains
  | arrayGet
  | arrayClear
  | createBadge
  | awardBadge
  | revokeBadge
  | hasBadge
  | getBadge
  | addRecommendation
  | removeRecommendation
  | hasRecommendation
  | createSubcoach
  | removeSubcoach
  | getParentArgument
  | getSubcoachVariable
  | concat
  | log
  | getMetadata
  | hasHandler
deriving DecidableEq, Repr

namespace Command

/-- The name under which a command is called. The test for equal numbers has none of its own. -/
def name : Command → String
  | .all => "and"
  | .any => "or"
  | .negate => "not"
  | .choose => "if"
  | .equals => "equals"
  | .compare .greater => "greaterThan"
  | .compare .greaterOrEqual => "greaterOrEqual"
  | .compare .less => "lessThan"
  | .compare .lessOrEqual => "lessOrEqual"
  | .compare .equal => ""
  | .addScore => "addScore"
  | .capScore => "capScore"
  | .getScore => "getScore"
  | .set => "set"
  | .get => "get"
  | .append => "append"
  | .isSelected => "isSelected"
  | .isAnswered => "isAnswered"
  | .isHidden => "isHidden"
  | .setHidden => "setHidden"
  | .setHiddenRange => "setMHidden"
  | .arrayAdd => "arrayAdd"
  | .arrayRemove => "arrayRemove"
  | .arrayLength => "arrayLength"
  | .arrayContains => "arrayContains"
  | .arrayGet => "arrayGet"
  | .arrayClear => "arrayClear"
  | .createBadge => "createBadge"
  | .awardBadge => "awardBadge"
  | .revokeBadge => "revokeBadge"
  | .hasBadge => "hasBadge"
  | .getBadge => "getBadge"
  | .addRecommendation => "addRecommendation"
  | .removeRecommendation => "removeRecommendation"
  | .hasRecommendation => "hasRecommendation"
  | .createSubcoach => "createSubcoach"
  | .removeSubcoach => "removeSubcoach"
  | .getParentArgument => "getParentArgument"
  | .getSubcoachVariable => "getSubcoachVariable"
  | .concat => "concat"
  | .log => "log"
  | .getMetadata => "getMetadata"
  | .hasHandler => "hasHandler"

/-- The argument counts that a command accepts. -/
def arity : Command → Arity
  | .all | .any | .log => .atLeast 1
  | .createBadge => .atLeast 2
  | .concat => .atLeast 0
  | .getParentArgument => .exactly 0
  | .negate | .getScore | .isSelected | .isAnswered | .isHidden | .arrayLength | .arrayClear
  | .revokeBadge | .getBadge | .removeRecommendation | .hasRecommendation | .hasHandler =>
    .exactly 1
  | .equals | .compare _ | .addScore | .capScore | .setHidden | .arrayRemove | .arrayContains
  | .arrayGet | .awardBadge | .removeSubcoach => .exactly 2
  | .setHiddenRange | .getSubcoachVariable => .exactly 3
  | .hasBadge => .range 1 2
  | .get => .range 1 3
  | .choose | .set | .append | .arrayAdd | .createSubcoach | .getMetadata => .range 2 3
  | .addRecommendation => .range 4 5

/-- How many arguments are evaluated before the command decides on the others; nothing means all. -/
def eagerArguments? : Command → Option Nat
  | .choose => some 1
  | _ => none

/-- The commands that have a name of their own. -/
def builtins : List Command :=
  [.all, .any, .negate, .choose, .equals, .compare .greater, .compare .greaterOrEqual,
    .compare .less, .compare .lessOrEqual, .addScore, .capScore, .getScore, .set, .get, .append,
    .isSelected, .isAnswered, .isHidden, .setHidden, .setHiddenRange, .arrayAdd, .arrayRemove,
    .arrayLength, .arrayContains, .arrayGet, .arrayClear, .createBadge, .awardBadge, .revokeBadge,
    .hasBadge, .getBadge, .addRecommendation, .removeRecommendation, .hasRecommendation,
    .createSubcoach, .removeSubcoach, .getParentArgument, .getSubcoachVariable, .concat, .log,
    .getMetadata, .hasHandler]

end Command

/-- Which command a name stands for. -/
structure CommandTable where
  entries : List (String × Command)
deriving DecidableEq, Repr

namespace CommandTable

/-- No commands. -/
def empty : CommandTable := ⟨[]⟩

/-- Gives a name to a command, in place of the one that had it. -/
def register (t : CommandTable) (name : String) (command : Command) : CommandTable :=
  ⟨(name, command) :: t.entries.filter (·.1 != name)⟩

/-- Every command under its own name. -/
def builtin : CommandTable := ⟨Command.builtins.map fun command => (command.name, command)⟩

/-- The command of a name. -/
def find? (t : CommandTable) (name : String) : Option Command := t.entries.lookup name

/-- The names, in order. -/
def names (t : CommandTable) : List String :=
  (t.entries.map (·.1)).mergeSort fun x y => decide (x ≤ y)

/-- The number of commands. -/
def size (t : CommandTable) : Nat := t.entries.length

theorem size_builtin : builtin.size = 42 := rfl

theorem nodup_builtin : (builtin.entries.map (·.1)).Nodup := by decide +kernel

end CommandTable

end CoachScript
