-- SUMMARY: Readings of documents that collect every issue.
import ApiJourney.Schema.Issue

/-!
# Verdicts

Reading a document gives a value or all its issues, in document order. Two
readings side by side report the issues of both; a reading that builds on
another stops at the issues of the first.
-/

namespace ApiJourney.Schema

inductive Verdict (α : Type) where
  | accepted (value : α)
  | refused (issues : List Issue)

namespace Verdict

def refuse (c : Cause) : Verdict α :=
  .refused [⟨[], c⟩]

def map (f : α → β) : Verdict α → Verdict β
  | .accepted a => .accepted (f a)
  | .refused is => .refused is

/-- The issues of both sides, those of the function first. -/
def apply : Verdict (α → β) → Verdict α → Verdict β
  | .accepted f, .accepted a => .accepted (f a)
  | .accepted _, .refused is => .refused is
  | .refused is, .accepted _ => .refused is
  | .refused is, .refused js => .refused (is ++ js)

instance : Applicative Verdict where
  pure := .accepted
  map := map
  seq f x := apply f (x ())

/-- A further reading of what was accepted. -/
def andThen (v : Verdict α) (f : α → Verdict β) : Verdict β :=
  match v with
  | .accepted a => f a
  | .refused is => .refused is

/-- The same verdict, one step further down. -/
def under (p : Place) : Verdict α → Verdict α
  | .accepted a => .accepted a
  | .refused is => .refused (is.map fun i => { i with place := p :: i.place })

/-- The items of a list, each at its position. -/
def each (read : α → Verdict β) (position : Nat) : List α → Verdict (List β)
  | [] => .accepted []
  | x :: rest => List.cons <$> (read x).under (.item position) <*> each read (position + 1) rest

def toExcept : Verdict α → Except (List Issue) α
  | .accepted a => .ok a
  | .refused is => .error is

end Verdict

end ApiJourney.Schema
