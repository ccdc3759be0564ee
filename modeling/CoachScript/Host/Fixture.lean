import CoachScript.Host.Basic
import CoachScript.Json.Decode

/-!
# Fixtures

A fixture is a JSON document that furnishes a host: coaches, answers, metadata and handlers.

* `Fixture.read?`: the fixture that a document describes.
* `Fixture.host`: the host it furnishes. A later coach replaces an earlier one of its id.
-/

namespace CoachScript

/-- What a host is furnished with. -/
structure Fixture where
  coaches : List Coach
  answers : List (String × List (String × Answer))
  metadata : List (String × List (String × List (String × String)))
  handlers : List (String × List String)

/-- The answer that a JSON value describes. -/
def Answer.ofJson? (j : Json) : Option Answer := do
  match ← j.fields? ["options", "text"] with
  | [options, text] =>
    let options ← Json.fieldOr [] (Json.list? Json.string?) options
    let text ← Json.fieldOr none (Json.nullable? Json.string?) text
    pure ⟨options, text⟩
  | _ => none

/-- The question that a JSON value describes. -/
def Question.ofJson? (j : Json) : Option Question := do
  match ← j.fields? ["id", "logic"] with
  | [id, logic] =>
    let id ← Json.field Json.string? id
    let logic ← Json.fieldOr "" Json.string? logic
    pure ⟨id, logic⟩
  | _ => none

/-- The coach that a JSON value describes. -/
def Coach.ofJson? (j : Json) : Option Coach := do
  match ← j.fields? ["id", "pre_logic", "post_logic", "questions"] with
  | [id, preLogic, postLogic, questions] =>
    let id ← Json.field Json.string? id
    let preLogic ← Json.fieldOr "" Json.string? preLogic
    let postLogic ← Json.fieldOr "" Json.string? postLogic
    let questions ← Json.fieldOr [] (Json.list? Question.ofJson?) questions
    pure ⟨id, preLogic, postLogic, questions⟩
  | _ => none

namespace Fixture

/-- Nothing. -/
def empty : Fixture := ⟨[], [], [], []⟩

/-- The fixture that a JSON value describes. -/
def ofJson? (j : Json) : Option Fixture := do
  match ← j.fields? ["coaches", "answers", "metadata", "handlers"] with
  | [coaches, answers, metadata, handlers] =>
    let coaches ← Json.fieldOr [] (Json.list? Coach.ofJson?) coaches
    let answers ← Json.fieldOr [] (Json.map? (Json.map? Answer.ofJson?)) answers
    let metadata ← Json.fieldOr [] (Json.map? (Json.map? (Json.map? Json.string?))) metadata
    let handlers ← Json.fieldOr [] (Json.map? (Json.list? Json.string?)) handlers
    pure ⟨coaches, answers, metadata, handlers⟩
  | _ => none

/-- The fixture that a document describes. -/
def read? (text : String) : Option Fixture := (Json.read? text).bind ofJson?

/-- The host that the fixture furnishes. -/
def host (f : Fixture) : Host :=
  let h := f.coaches.foldl Host.addCoach ∅
  let h := f.answers.foldl (fun h (id, entries) =>
    entries.foldl (fun h (question, a) => h.setAnswer id question a) h) h
  let h := f.metadata.foldl (fun h (id, groups) =>
    groups.foldl (fun h (group, values) =>
      values.foldl (fun h (key, value) => h.setMetadata id group key value) h) h) h
  f.handlers.foldl (fun h (id, names) => h.setHandlers id names) h

end Fixture

end CoachScript
