import Charting.Json.Basic

/-!
# Drafts

A text can keep to the grammar of JSON and still hold parts that have no value: a number beyond the
range, a string with half of a surrogate pair, containers that nest too deeply.  A draft is a JSON
tree in which such parts are marked, so that they do no harm where they are passed over.

`Json.value?` takes a draft without marks as a value, and `Json.value?_draft` says that every value
is got from a draft.
-/

namespace Charting

namespace Json

variable {R : Type}

/-- A JSON tree in which parts can be marked as having no value. -/
abbrev Draft (R : Type) := Json (Option R)

/-- The mark of a part that has no value. -/
def unreadable : Draft R := real none

mutual

/-- The value of a draft in which nothing is marked. -/
def value? : Draft R → Option (Json R)
  | null => some null
  | bool b => some (bool b)
  | integer n => some (integer n)
  | real x => x.map real
  | string s => some (string s)
  | array items => (valueItems? items).map array
  | object members => (valueMembers? members).map object

/-- The values of items in which nothing is marked. -/
def valueItems? : List (Draft R) → Option (List (Json R))
  | [] => some []
  | j :: rest => do
    let j ← value? j
    let rest ← valueItems? rest
    some (j :: rest)

/-- The values of members in which nothing is marked. -/
def valueMembers? : List (String × Draft R) → Option (List (String × Json R))
  | [] => some []
  | (name, j) :: rest => do
    let j ← value? j
    let rest ← valueMembers? rest
    some ((name, j) :: rest)

end

mutual

/-- The value as a draft, with nothing marked. -/
def draft : Json R → Draft R
  | null => null
  | bool b => bool b
  | integer n => integer n
  | real x => real (some x)
  | string s => string s
  | array items => array (draftItems items)
  | object members => object (draftMembers members)

/-- The items as drafts. -/
def draftItems : List (Json R) → List (Draft R)
  | [] => []
  | j :: rest => draft j :: draftItems rest

/-- The members as drafts. -/
def draftMembers : List (String × Json R) → List (String × Draft R)
  | [] => []
  | (name, j) :: rest => (name, draft j) :: draftMembers rest

end

mutual

/-- A value is the value of its draft. -/
@[simp]
theorem value?_draft : (j : Json R) → j.draft.value? = some j
  | null | bool _ | integer _ | real _ | string _ => by simp [draft, value?]
  | array items => by simp [draft, value?, valueItems?_draftItems items]
  | object members => by simp [draft, value?, valueMembers?_draftMembers members]

/-- Items are the values of their drafts. -/
theorem valueItems?_draftItems : (js : List (Json R)) → valueItems? (draftItems js) = some js
  | [] => by simp [draftItems, valueItems?]
  | j :: rest => by
    simp [draftItems, valueItems?, value?_draft j, valueItems?_draftItems rest]

/-- Members are the values of their drafts. -/
theorem valueMembers?_draftMembers :
    (ms : List (String × Json R)) → valueMembers? (draftMembers ms) = some ms
  | [] => by simp [draftMembers, valueMembers?]
  | (name, j) :: rest => by
    simp [draftMembers, valueMembers?, value?_draft j, valueMembers?_draftMembers rest]

end

end Json

end Charting
