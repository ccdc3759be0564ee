import CoachScript.Eval.World

/-!
# Conditions

`and`, `or`, `not`, equality, and the comparisons of numbers. Two values are equal when they are of
one kind and of one text; a comparison is false unless both sides are numbers.
-/

namespace CoachScript.Builtin

/-- The arguments as truth values, in order. -/
def conditions (args : List Value) : Except Fault (List Bool) :=
  args.mapM fun v => truth (String.ofList v.source) v

/-- Every argument holds. -/
def all (args : List Value) : Except Fault Value :=
  (conditions args).map fun bs => .bool (bs.all id)

/-- Some argument holds. -/
def any (args : List Value) : Except Fault Value :=
  (conditions args).map fun bs => .bool (bs.any id)

/-- The argument does not hold. -/
def negate (args : List Value) : Except Fault Value :=
  let v := Call.value args 0
  (truth (String.ofList v.source) v).map fun b => .bool !b

/-- The arguments are of one kind and one text. -/
def equals (args : List Value) : Value :=
  let left := Call.value args 0
  let right := Call.value args 1
  .bool (left.kind == right.kind && left.text? == right.text?)

/-- The arguments are numbers whose order passes the test. -/
def compare (test : NumberTest) (args : List Value) : Value :=
  match Decimal.ofValue? (Call.value args 0), Decimal.ofValue? (Call.value args 1) with
  | some left, some right => .bool (test.passes (left.compare right))
  | _, _ => .bool false

end CoachScript.Builtin
