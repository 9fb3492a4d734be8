/-!
# Grouping

`groupBy f xs` collects the elements of `xs` with the same key, both the groups and the elements of
a group in order of first appearance; `distinctBy f xs` keeps the first element of each group.
-/

namespace Charting

variable {α κ : Type} [DecidableEq κ]

/-- Adds an element to the group with its key, which is made at the end if there is none. -/
def insertInGroup (k : κ) (x : α) : List (κ × List α) → List (κ × List α)
  | [] => [(k, [x])]
  | (k', xs) :: rest =>
    if k' = k then (k', xs ++ [x]) :: rest else (k', xs) :: insertInGroup k x rest

/-- The groups of elements with the same key. -/
def groupBy (f : α → κ) (xs : List α) : List (κ × List α) :=
  xs.foldl (fun groups x => insertInGroup (f x) x groups) []

/-- The first element with each key. -/
def distinctBy (f : α → κ) : List α → List α
  | [] => []
  | x :: rest => x :: (distinctBy f rest).filter (f · ≠ f x)

end Charting
