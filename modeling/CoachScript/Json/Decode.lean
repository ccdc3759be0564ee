import CoachScript.Json.Read

/-!
# Decoding JSON

* `Json.fields?`: the fields of a record, written as an object or, in order, as an array. Unknown
  members are passed over; a known one must not occur twice, and an array must not be too long.
* `Json.list?`, `Json.map?`: arrays and objects whose parts are all of one shape. Of the members of
  a map with one key the last counts.
* `Json.field`, `Json.fieldOr`: a field that has to be there, and one that has a default.
-/

namespace CoachScript

namespace Json

/-- The members of an object with their keys decoded. -/
def named? : List (List Char × Json) → Option (List (String × Json))
  | [] => some []
  | (raw, e) :: more => do
    let key ← decodeString? raw
    let more ← Json.named? more
    pure ((String.ofList key, e) :: more)

/-- The fields of a record in the order of `names`. -/
def fields? (names : List String) : Json → Option (List (Option Json))
  | .object ms => do
    let ms ← Json.named? ms
    if names.all fun name => (ms.filter (·.1 == name)).length ≤ 1 then
      pure (names.map fun name => ms.lookup name)
    else none
  | .array es =>
    if es.length ≤ names.length then
      some (es.map some ++ List.replicate (names.length - es.length) none)
    else none
  | _ => none

/-- A field that has to be there. -/
def field {α : Type} (decode : Json → Option α) (value? : Option Json) : Option α :=
  value?.bind decode

/-- A field that has a default. -/
def fieldOr {α : Type} (default : α) (decode : Json → Option α) : Option Json → Option α
  | some j => decode j
  | none => some default

/-- The elements of an array. -/
def list? {α : Type} (decode : Json → Option α) : Json → Option (List α)
  | .array es => es.mapM decode
  | _ => none

/-- A value, or nothing for null. -/
def nullable? {α : Type} (decode : Json → Option α) : Json → Option (Option α)
  | .null => some none
  | j => (decode j).map some

/-- Entries without those that a later one of their key replaces. -/
def lastOfEach {α : Type} : List (String × α) → List (String × α)
  | [] => []
  | (key, a) :: more =>
    if more.any (·.1 == key) then lastOfEach more else (key, a) :: lastOfEach more

/-- The entries of a map. -/
def map? {α : Type} (decode : Json → Option α) : Json → Option (List (String × α))
  | .object ms => do
    let ms ← Json.named? ms
    let entries ← ms.mapM fun (key, j) => (decode j).map (key, ·)
    pure (lastOfEach entries)
  | _ => none

end Json

end CoachScript
