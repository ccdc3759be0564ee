import CoachScript.Json.Basic
import CoachScript.State.Contexts

/-!
# Snapshots

`Contexts.snapshot` is what a context shows of itself, as a JSON document: its names, its variables
by source, its scores and badges, its recommendations and those of the instances below it, its
hidden questions and its instances.
-/

namespace CoachScript

/-- A table as an object. -/
def ByName.toJson {α : Type} (table : ByName α) (f : α → Json) : Json :=
  .ofMembers (table.toList.map fun (name, a) => (name, f a))

/-- Texts as an array. -/
def textsJson (texts : List String) : Json := .array (texts.map .ofString)

/-- The variables: the latest value of each, and the value by source. -/
def Variables.toJson {α : Type} (text? : α → Option String) (vs : Variables α) : Json :=
  ByName.toJson vs.table fun v => .ofMembers [
    ("value", .ofString? (v.last?.bind text?)),
    ("sources", ByName.toJson v.bySource fun a => .ofString? (text? a))]

/-- The totals of the scores. -/
def Scores.toJson (ss : Scores) : Json := ByName.toJson ss.table fun s => .ofString s.total.text

/-- A badge. -/
def Badge.toJson (b : Badge) : Json :=
  .ofMembers [("classes", textsJson b.classes), ("awarded", .ofString? b.awarded)]

/-- The badges. -/
def Badges.toJson (bs : Badges) : Json := ByName.toJson bs.table Badge.toJson

/-- A tag. -/
def Tag.toJson (t : Tag) : Json :=
  .ofMembers [("label", .ofString t.label), ("category", .ofString t.category),
    ("color", .ofString t.color)]

/-- A recommendation. -/
def Recommendation.toJson (r : Recommendation) : Json :=
  .ofMembers [("id", .ofString r.id), ("order", .ofInt r.order), ("title", .ofString r.title),
    ("text", .ofString r.text), ("tags", .array (r.tags.map Tag.toJson)),
    ("instance", .ofString? r.contributor)]

/-- Recommendations in the order in which they are shown. -/
def Recommendations.toJson (rs : Recommendations) : Json :=
  .array (rs.list.map Recommendation.toJson)

namespace Contexts

/-- What a context shows of itself. -/
def snapshot (cs : Contexts) (id : ContextId) : Json :=
  let c := cs.get id
  .ofMembers [
    ("coach_id", .ofString c.coachId),
    ("fqcn", .ofString c.name),
    ("active_instance", .ofString? c.tag),
    ("parent", .ofString? ((cs.parent? id).map fun parent => (cs.get parent).name)),
    ("variables", c.memory.toJson Value.text?),
    ("scores", c.scores.toJson),
    ("badges", c.badges.toJson),
    ("recommendations", c.recommendations.toJson),
    ("subcoach_recommendations", ByName.toJson c.buckets Recommendations.toJson),
    ("hidden_questions", textsJson c.hidden.list),
    ("subcoaches", textsJson (c.sortedHandles.map (·.name)))]

/-- The snapshots of all stored contexts, in the order of their keys. -/
def snapshots (cs : Contexts) : List Json := cs.stored.values.map cs.snapshot

end Contexts

end CoachScript
