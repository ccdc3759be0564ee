import CoachScript.Builtin.Advice
import CoachScript.Builtin.Condition
import CoachScript.Builtin.Instances
import CoachScript.Builtin.Memory
import CoachScript.Builtin.Merit
import CoachScript.Builtin.Report
import CoachScript.Builtin.Survey

/-!
# What the commands do

`Command.run` takes the evaluated arguments of a call to its value. Many commands only look at the
world. The others check their arguments and look up what they need, and then write.
-/

namespace CoachScript

/-- The value of a call with evaluated arguments. `if` has no part here: it decides what to
evaluate. -/
def Command.run (command : Command) (call : Call) (args : List Value) : Action Value :=
  match command with
  | .all => .look fun _ => Builtin.all args
  | .any => .look fun _ => Builtin.any args
  | .negate => .look fun _ => Builtin.negate args
  | .choose => .pure .null
  | .equals => .pure (Builtin.equals args)
  | .compare test => .pure (Builtin.compare test args)
  | .addScore => Builtin.addScore call args
  | .capScore => Builtin.capScore call args
  | .getScore => .look (Builtin.getScore call args)
  | .set => Builtin.set call args
  | .get => .look (Builtin.get call args)
  | .append => Builtin.append call args
  | .isSelected => .look (Builtin.isSelected call args)
  | .isAnswered => .look (Builtin.isAnswered call args)
  | .isHidden => .look (Builtin.isHidden call args)
  | .setHidden => Builtin.setHidden call args
  | .setHiddenRange => Builtin.setHiddenRange call args
  | .arrayAdd => Builtin.arrayAdd call args
  | .arrayRemove => Builtin.arrayRemove call args
  | .arrayLength => .look (Builtin.arrayLength call args)
  | .arrayContains => .look (Builtin.arrayContains call args)
  | .arrayGet => .look (Builtin.arrayGet call args)
  | .arrayClear => Builtin.arrayClear call args
  | .createBadge => Builtin.createBadge call args
  | .awardBadge => Builtin.awardBadge call args
  | .revokeBadge => Builtin.revokeBadge call args
  | .hasBadge => .look (Builtin.hasBadge call args)
  | .getBadge => .look (Builtin.getBadge call args)
  | .addRecommendation => Builtin.addRecommendation call args
  | .removeRecommendation => Builtin.removeRecommendation call args
  | .hasRecommendation => Builtin.hasRecommendation call args
  | .createSubcoach => Builtin.createSubcoach call args
  | .removeSubcoach => Builtin.removeSubcoach call args
  | .getParentArgument => .look fun w => .ok (Builtin.getParentArgument call w)
  | .getSubcoachVariable => .look (Builtin.getSubcoachVariable call args)
  | .concat => .pure (Builtin.concat args)
  | .log => Builtin.log call args
  | .getMetadata => .look (Builtin.getMetadata call args)
  | .hasHandler => .look (Builtin.hasHandler call args)

end CoachScript
