-- SUMMARY: Sorting gives a permutation.
import ApiJourney.Proofs.Outcome
import ApiJourney.Sorting
import Mathlib

/-!
# Sorted lists

Whatever the test answers, and it may contradict itself, what is sorted is a permutation of what
there was: each step moves items and neither drops nor doubles one.
-/

namespace ApiJourney

namespace Sorting

variable {ε α : Type} {before : Test ε α}

/-- Two lists are together a permutation of a third one. -/
abbrev Splits (zs : List α) (r : List α × List α) : Prop :=
  (r.1 ++ r.2).Perm zs

theorem insertAll_perm (a : Array α) (xs : List α) :
    Ensures (insertAll before a xs) (fun b => b.toList.Perm (a.toList ++ xs)) fun _ => True := by
  induction xs generalizing a with
  | nil => exact .of_eq (List.append_nil _).symm
  | cons x xs ih =>
    rw [insertAll]
    refine .andThen fun place => (ih _).imp_ok fun b hb => hb.trans ?_
    have hplace : (a.toList.take place ++ x :: a.toList.drop place).Perm
        (x :: (a.toList.take place ++ a.toList.drop place)) := List.perm_middle
    rw [List.take_append_drop] at hplace
    exact (hplace.append_right xs).trans List.perm_middle.symm

theorem ascendingRun_splits (last : α) (xs : List α) :
    Ensures (ascendingRun before last xs) (Splits xs) fun _ => True := by
  induction xs generalizing last with
  | nil => exact List.Perm.nil
  | cons x xs ih =>
    rw [ascendingRun]
    refine .andThen fun b => ?_
    split
    · exact List.Perm.refl _
    · exact (ih x).bind fun r hr => hr.cons x

theorem descendingRun_splits (last : α) (xs : List α) :
    Ensures (descendingRun before last xs) (Splits xs) fun _ => True := by
  induction xs generalizing last with
  | nil => exact List.Perm.nil
  | cons x xs ih =>
    rw [descendingRun]
    refine .andThen fun b => ?_
    split
    · exact (ih x).bind fun r hr => hr.cons x
    · exact List.Perm.refl _

/-- Once the rest is inserted into the run in front, all is there. -/
theorem insertAll_splits {zs : List α} {r : List α × List α} (h : Splits zs r) :
    Ensures (do let a ← insertAll before r.1.toArray r.2; .ok a.toList) (·.Perm zs)
      fun _ => True :=
  (insertAll_perm _ r.2).bind fun _ ha => ha.trans h

theorem insertionSorted_perm (xs : List α) :
    Ensures (insertionSorted before xs) (·.Perm xs) fun _ => True := by
  match xs with
  | [] => exact List.Perm.nil
  | [x] => exact List.Perm.refl _
  | x :: y :: rest =>
    rw [insertionSorted]
    refine .andThen fun b => ?_
    split
    · refine (descendingRun_splits y rest).bind fun r hr => ?_
      have hturned := (List.reverse_perm (x :: y :: r.1)).append_right r.2
      exact insertAll_splits (r := ((x :: y :: r.1).reverse, r.2))
        (hturned.trans ((hr.cons y).cons x))
    · exact (ascendingRun_splits y rest).bind fun r hr =>
        insertAll_splits (r := (x :: y :: r.1, r.2)) ((hr.cons y).cons x)

theorem merge_perm (fuel : Nat) (xs ys : List α) :
    Ensures (merge before fuel xs ys) (·.Perm (xs ++ ys)) fun _ => True := by
  induction fuel generalizing xs ys with
  | zero => exact List.Perm.refl _
  | succ fuel ih =>
    match xs, ys with
    | [], ys => exact List.Perm.refl _
    | x :: xs, [] => exact .of_eq (List.append_nil _).symm
    | x :: xs, y :: ys =>
      rw [merge]
      refine .andThen fun b => ?_
      split
      · exact (ih _ _).bind fun r hr => (hr.cons y).trans List.perm_middle.symm
      · exact (ih _ _).bind fun r hr => hr.cons x

theorem sortedWith_perm (fuel : Nat) (xs : List α) :
    Ensures (sortedWith before fuel xs) (·.Perm xs) fun _ => True := by
  induction fuel generalizing xs with
  | zero => exact insertionSorted_perm xs
  | succ fuel ih =>
    rw [sortedWith]
    split
    · exact insertionSorted_perm xs
    · refine (ih _).bind fun l hl => (ih _).bind fun r hr => ?_
      refine (merge_perm _ l r).imp_ok fun zs hzs => hzs.trans ?_
      exact (hl.append hr).trans (.of_eq (List.take_append_drop _ xs))

end Sorting

/-- What is sorted is still there, and nothing else. -/
theorem sorted_perm {ε α : Type} (before : Sorting.Test ε α) (xs : List α) :
    Ensures (sorted before xs) (·.Perm xs) fun _ => True :=
  Sorting.sortedWith_perm _ xs

end ApiJourney
