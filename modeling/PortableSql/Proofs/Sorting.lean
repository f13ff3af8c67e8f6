import Mathlib.Data.Char
import Mathlib.Data.List.Lex
import Mathlib.Data.List.Sort
import PortableSql.Sorting
import PortableSql.Text.Basic

/-!
# Sorted lists

Sorting keeps the items of a list and puts them in order. Texts are ordered letter by letter, by the
codes of the letters, which is a linear order. So a sorted list of distinct texts is increasing, and
it does not depend on the order that the texts were in before.
-/

namespace PortableSql

section Sorting

variable {α : Type} (le : α → α → Bool)

/-- Sorting is insertion sort for the given order. -/
theorem sortBy_eq_insertionSort (items : List α) :
    sortBy le items = items.insertionSort (fun a b => le a b = true) := by
  have hinsert (a : α) (sorted : List α) :
      insertBy le a sorted = sorted.orderedInsert (fun a b => le a b = true) a := by
    induction sorted with
    | nil => rfl
    | cons b sorted ih => simp only [insertBy, List.orderedInsert_cons, ih]
  induction items with
  | nil => rfl
  | cons a items ih =>
    rw [List.insertionSort_cons, ← ih, ← hinsert]
    rfl

/-- Sorting only changes the order of the items. -/
theorem sortBy_perm (items : List α) : (sortBy le items).Perm items := by
  rw [sortBy_eq_insertionSort]
  exact List.perm_insertionSort _ items

/-- Sorting neither loses nor adds items. -/
@[simp] theorem mem_sortBy {items : List α} {a : α} : a ∈ sortBy le items ↔ a ∈ items :=
  (sortBy_perm le items).mem_iff

end Sorting

namespace Text

/-- The order of texts is the lexicographic order of their characters. -/
theorem le_iff {a b : Text} : le a b = true ↔ a ≤ b := by
  rw [le_iff_lt_or_eq]
  induction a generalizing b with
  | nil => cases b <;> simp [le]
  | cons c a ih =>
    cases b with
    | nil => simp [le]
    | cons d b =>
      have hcode : c.toNat < d.toNat ↔ c < d := Iff.rfl
      simp only [le, Bool.or_eq_true, Bool.and_eq_true, decide_eq_true_eq, beq_iff_eq, ih,
        List.cons_lt_cons_iff, List.cons.injEq, Char.toNat_inj, hcode]
      tauto

/-- A sorted list of texts ascends. -/
theorem sortBy_le_pairwise (items : List Text) : (sortBy le items).Pairwise (· ≤ ·) := by
  rw [sortBy_eq_insertionSort]
  simp only [le_iff]
  exact List.pairwise_insertionSort _ items

/-- A sorted list of distinct texts is increasing. -/
theorem sortBy_le_pairwise_lt {items : List Text} (hnodup : items.Nodup) :
    (sortBy le items).Pairwise (· < ·) := by
  have hdistinct : (sortBy le items).Pairwise (· ≠ ·) :=
    (sortBy_perm le items).nodup_iff.mpr hnodup
  exact ((sortBy_le_pairwise items).and hdistinct).imp fun h => lt_of_le_of_ne h.1 h.2

/-- Texts in another order are sorted alike. -/
theorem sortBy_le_congr {items others : List Text} (hperm : items.Perm others) :
    sortBy le items = sortBy le others := by
  have hsorted : (sortBy le items).Perm (sortBy le others) :=
    (sortBy_perm le items).trans (hperm.trans (sortBy_perm le others).symm)
  exact hsorted.eq_of_pairwise' (sortBy_le_pairwise items) (sortBy_le_pairwise others)

end Text

end PortableSql
