-- SUMMARY: Paths into variables, and the values they lead to.
import ApiJourney.Fault
import ApiJourney.Number.Numeral
import ApiJourney.Value.Equality

/-!
# Paths into variables

A path names keys, with points before them, and positions in brackets. What is
neither is passed over. A path leads nowhere when a key or a position on it is
not there; a null that is there is found as null.
-/

namespace ApiJourney.Template

open ApiJourney.Text

inductive PathPart where
  | key (name : List Char)
  | index (digits : List Char)
  deriving DecidableEq

namespace PathPart

def isNameChar (c : Char) : Bool :=
  c != '.' && c != '[' && c != ']'

/-- The key that starts at a character; a point before it does not belong to it. -/
def nameAt (c : Char) (rest : List Char) : List Char :=
  (if c == '.' then [] else [c]) ++ rest.takeWhile isNameChar

/-- The part that a text starts with, and the rest behind it; a character that starts
    no part is passed over. -/
def next (c : Char) (rest : List Char) : Option PathPart × List Char :=
  if c == '[' then
    match rest.takeWhile isDecimal, rest.dropWhile isDecimal with
    | d :: ds, ']' :: after => (some (.index (d :: ds)), after)
    | _, _ => (none, rest)
  else if c == ']' then (none, rest)
  else if (nameAt c rest).isEmpty then (none, rest)
  else (some (.key (nameAt c rest)), rest.dropWhile isNameChar)

theorem length_dropWhile_le (p : α → Bool) (xs : List α) : (xs.dropWhile p).length ≤ xs.length := by
  induction xs with
  | nil => simp
  | cons x xs ih =>
    rw [List.dropWhile_cons]
    split
    · simp only [List.length_cons]; omega
    · simp

theorem length_next_le (c : Char) (rest : List Char) : (next c rest).2.length ≤ rest.length := by
  unfold next
  split
  · split
    · rename_i after h
      have := length_dropWhile_le isDecimal rest
      simp only [h, List.length_cons] at this
      simp only; omega
    · simp
  · split
    · simp
    · split
      · simp
      · exact length_dropWhile_le isNameChar rest

/-- All parts of a path. -/
def ofPath : List Char → List PathPart
  | [] => []
  | c :: rest => (next c rest).1.toList ++ ofPath (next c rest).2
termination_by cs => cs.length
decreasing_by
  have := length_next_le c rest
  simp only [List.length_cons]; omega

/-- The value one part further; a position with too many digits is a fault. -/
def follow (v : Value) : PathPart → Except Fault (Option Value)
  | .key name =>
    match v with
    | .dict es => .ok (Entries.get? es (String.ofList name))
    | _ => .ok none
  | .index digits =>
    match Numeral.integer? 10 digits with
    | none => .error .badValue
    | some i =>
      match v with
      | .list xs => .ok xs[i.toNat]?
      | _ => .ok none

/-- The value at the end of all parts. -/
def followAll (v : Value) : List PathPart → Except Fault (Option Value)
  | [] => .ok (some v)
  | p :: rest => do
    match ← follow v p with
    | some w => followAll w rest
    | none => .ok none

end PathPart

/-- Whether paths lead into a value: objects and lists have parts. -/
def hasParts : Value → Bool
  | .dict _ => true
  | .list _ => true
  | _ => false

/-- The value that a path leads to, if any; the empty path leads nowhere. -/
def lookup? (context : Value) (path : List Char) : Except Fault (Option Value) :=
  if path.isEmpty || !hasParts context then .ok none
  else PathPart.followAll context (PathPart.ofPath path)

end ApiJourney.Template
