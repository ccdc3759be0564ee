import CoachScript.Json.Decode

/-!
# Settings

`Config.read?` reads the settings from a JSON document. Every field has a default, so the empty
object is a document of settings.
-/

namespace CoachScript

/-- The settings of an engine. -/
structure Config where
  /-- How many listings are kept at most. -/
  cacheCapacity : Nat
  /-- Variables whose names begin so are spared when a question is evaluated again. -/
  systemPrefix : String
deriving DecidableEq, Repr

namespace Config

/-- The settings where none are given. -/
def standard : Config := ⟨1000, "sys_"⟩

instance : Inhabited Config := ⟨standard⟩

/-- A capacity: an integer literal that fits 64 bits. -/
def capacity? (j : Json) : Option Nat := j.natural?.filter (· < UInt64.size)

/-- The settings that a JSON value describes. -/
def ofJson? (j : Json) : Option Config := do
  match ← j.fields? ["ast_cache_capacity", "system_variable_prefix"] with
  | [capacity, spared] =>
    let capacity ← Json.fieldOr standard.cacheCapacity capacity? capacity
    let spared ← Json.fieldOr standard.systemPrefix Json.string? spared
    pure ⟨capacity, spared⟩
  | _ => none

/-- The settings that a document describes. -/
def read? (text : String) : Option Config := (Json.read? text).bind ofJson?

end Config

end CoachScript
