-- SUMMARY: Random identifiers in their written form.
import ApiJourney.Text.Quoted

/-!
# Identifiers

An identifier has 128 bits, of which six tell its version and its variant. It is
written as hexadecimal digits in groups of 8, 4, 4, 4 and 12.
-/

namespace ApiJourney.Identifier

/-- The bits from `low` on, `count` of them, set to `value`. -/
def setBits (low count value n : Nat) : Nat :=
  let above := n / Nat.pow 2 (low + count)
  (above * Nat.pow 2 count + value) * Nat.pow 2 low + n % Nat.pow 2 low

/-- A version, and the variant of the standard. -/
def marked (version n : Nat) : Nat :=
  setBits 62 2 2 (setBits 76 4 version n)

def groups (digits : List Char) : List Char :=
  let part (start count : Nat) := (digits.drop start).take count
  part 0 8 ++ '-' :: part 8 4 ++ '-' :: part 12 4 ++ '-' :: part 16 4 ++ '-' :: part 20 12

def written (n : Nat) : String :=
  String.ofList (groups (Text.hex 32 n))

/-- The identifier with the given random bits. -/
def ofBits (n : Nat) : String :=
  written (marked 4 n)

/-- The bits of a time, its low part in front, and of a node. -/
def timeBits (ticks node : Nat) : Nat :=
  let part (low count : Nat) := ticks / Nat.pow 2 low % Nat.pow 2 count
  setBits 96 32 (part 0 32) (setBits 80 16 (part 32 16) (setBits 64 12 (part 48 12) (node % Nat.pow 2 64)))

/-- The identifier of a time, counted in steps of 100 ns, and a node. -/
def ofTicks (ticks node : Nat) : String :=
  written (marked 1 (timeBits ticks node))

end ApiJourney.Identifier
