-- SUMMARY: The Mersenne Twister, and the draws that are made with it.
import ApiJourney.Number.Binary64

/-!
# Random draws

The Mersenne Twister with 32-bit words, seeded by an integer of any size, and
draws on top of it: bits, doubles in the unit interval, and integers below a
bound by rejection.
-/

namespace ApiJourney

/-- The words of the generator and how many of them are used up. -/
structure Twister where
  words : Array UInt32
  used : Nat

namespace Twister

def size : Nat := 624
def shift : Nat := 397

/-! ## Seeding -/

def initialWords (count : Nat) (seed : UInt32) : Array UInt32 :=
  (List.range (count - 1)).foldl (fun ws i =>
    let last := ws.getD i 0
    ws.push ((last ^^^ (last >>> 30)) * 1812433253 + UInt32.ofNat (i + 1))) #[seed]

/-- The 32-bit words of a number, least significant first. -/
def keyWords : Nat → Nat → List UInt32
  | 0, _ => []
  | fuel + 1, n => UInt32.ofNat (n % Nat.pow 2 32) :: (if n < Nat.pow 2 32 then [] else keyWords fuel (n / Nat.pow 2 32))

/-- Copies the last word to the front when the end is reached. -/
def wrap (ws : Array UInt32) (i : Nat) : Array UInt32 × Nat :=
  if size ≤ i then (ws.setIfInBounds 0 (ws.getD (size - 1) 0), 1) else (ws, i)

/-- One round over the words that mixes the key in. -/
def mixKey (key : Array UInt32) : Nat → Nat → Nat → Array UInt32 → Array UInt32 × Nat
  | 0, i, _, ws => (ws, i)
  | count + 1, i, j, ws =>
    let last := ws.getD (i - 1) 0
    let w := (ws.getD i 0 ^^^ ((last ^^^ (last >>> 30)) * 1664525)) + key.getD j 0 + UInt32.ofNat j
    let (ws, i) := wrap (ws.setIfInBounds i w) (i + 1)
    mixKey key count i (if j + 1 < key.size then j + 1 else 0) ws

/-- One round over the words without the key. -/
def mixPlaces : Nat → Nat → Array UInt32 → Array UInt32
  | 0, _, ws => ws
  | count + 1, i, ws =>
    let last := ws.getD (i - 1) 0
    let w := (ws.getD i 0 ^^^ ((last ^^^ (last >>> 30)) * 1566083941)) - UInt32.ofNat i
    let (ws, i) := wrap (ws.setIfInBounds i w) (i + 1)
    mixPlaces count i ws

/-- The generator for a seed; its sign does not count. -/
def ofSeed (seed : Int) : Twister :=
  let key := (keyWords (seed.natAbs.log2 / 32 + 1) seed.natAbs).toArray
  let (ws, i) := mixKey key (max size key.size) 1 0 (initialWords size 19650218)
  let ws := mixPlaces (size - 1) i ws
  ⟨ws.setIfInBounds 0 0x80000000, size⟩

/-! ## Words -/

/-- Renews the words from place `i` on. -/
def renewFrom : Nat → Nat → Array UInt32 → Array UInt32
  | 0, _, ws => ws
  | count + 1, i, ws =>
    let y := (ws.getD i 0 &&& 0x80000000) ||| (ws.getD ((i + 1) % size) 0 &&& 0x7FFFFFFF)
    let twist : UInt32 := if y &&& 1 = 0 then 0 else 0x9908B0DF
    let w := ws.getD ((i + shift) % size) 0 ^^^ (y >>> 1) ^^^ twist
    renewFrom count (i + 1) (ws.setIfInBounds i w)

def temper (y : UInt32) : UInt32 :=
  let y := y ^^^ (y >>> 11)
  let y := y ^^^ ((y <<< 7) &&& 0x9D2C5680)
  let y := y ^^^ ((y <<< 15) &&& 0xEFC60000)
  y ^^^ (y >>> 18)

def next (t : Twister) : UInt32 × Twister :=
  let t := if size ≤ t.used then ⟨renewFrom size 0 t.words, 0⟩ else t
  (temper (t.words.getD t.used 0), { t with used := t.used + 1 })

/-! ## Draws -/

/-- A double in the unit interval, below 1. -/
def unit (t : Twister) : Float × Twister :=
  let (a, t) := t.next
  let (b, t) := t.next
  (Binary64.ofScaled false ((a >>> 5).toNat * Nat.pow 2 26 + (b >>> 6).toNat) (-53), t)

/-- `count` words as one number, the first the least significant, the last one cut to
    `last` bits. -/
def wordsFrom (last : Nat) : Nat → Twister → Nat × Twister
  | 0, t => (0, t)
  | 1, t =>
    let (w, t) := t.next
    (w.toNat / Nat.pow 2 (32 - last), t)
  | count + 1, t =>
    let (w, t) := t.next
    let (rest, t) := wordsFrom last count t
    (w.toNat + Nat.pow 2 32 * rest, t)

/-- A number of `k` bits. -/
def bits (k : Nat) (t : Twister) : Nat × Twister :=
  if k = 0 then (0, t)
  else
    let count := (k + 31) / 32
    wordsFrom (k - 32 * (count - 1)) count t

/-- Draws of `k` bits until one is below `n`; 0 when too many are refused. -/
def rejecting (n k : Nat) : Nat → Twister → Nat × Twister
  | 0, t => (0, t)
  | fuel + 1, t =>
    let (r, t) := t.bits k
    if r < n then (r, t) else rejecting n k fuel t

def maxRejections : Nat := 1000000

/-- A number below `n`. -/
def below (n : Nat) (t : Twister) : Nat × Twister :=
  rejecting n (if n = 0 then 0 else n.log2 + 1) maxRejections t

/-- An integer from `low` to `high`. -/
def between (low high : Int) (t : Twister) : Int × Twister :=
  let (r, t) := t.below (high - low + 1).toNat
  (low + r, t)

/-- A double between two bounds. -/
def uniform (low high : Float) (t : Twister) : Float × Twister :=
  let (r, t) := t.unit
  (low + (high - low) * r, t)

/-- A character of a text. -/
def choose (cs : Array Char) (t : Twister) : Char × Twister :=
  let (i, t) := t.below cs.size
  (cs.getD i ' ', t)

end Twister

end ApiJourney
