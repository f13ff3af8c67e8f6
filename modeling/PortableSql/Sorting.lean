/-!
# Stable sorting

Sorting by insertion. Items that are equal under the order keep their places.
-/

namespace PortableSql

/-- Puts an item in front of the first one that it does not have to follow. -/
def insertBy {α : Type} (le : α → α → Bool) (a : α) : List α → List α
  | [] => [a]
  | b :: bs => if le a b then a :: b :: bs else b :: insertBy le a bs

/-- Sorts a list; equal items keep their order. -/
def sortBy {α : Type} (le : α → α → Bool) (items : List α) : List α :=
  items.foldr (insertBy le) []

end PortableSql
