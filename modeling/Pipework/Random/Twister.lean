import Pipework.Random

/-!
# The Mersenne twister

The generator with 624 words of 32 bits. It is seeded by a whole number: the words of its magnitude, the
lowest first, are mixed into a fixed first state. A double takes 53 bits of two outputs, and a number below a
bound is drawn bit by bit and drawn again until it is small enough.
-/

namespace Pipework

/-- The words of the generator, and the place of the next word to give out. -/
structure Twister where
  words : Array UInt32
  next : Nat

namespace Twister

/-- The number of words. -/
def size : Nat := 624

/-- The distance between words that are combined. -/
def shift : Nat := 397

/-! ## Seeding -/

/-- A word mixed with the high bits of itself. -/
def folded (w : UInt32) : UInt32 := w ^^^ (w >>> 30)

/-- The state filled from a single word. -/
def ofWord (seed : UInt32) : Array UInt32 :=
  let grow := fun (ws : Array UInt32) (i : Nat) =>
    ws.push (1812433253 * folded (ws.getD i 0) + (i + 1).toUInt32)
  (List.range (size - 1)).foldl grow #[seed]

/-- Writes word `i`, and word zero after the last one; gives the place of the next word. -/
def place (ws : Array UInt32) (i : Nat) (w : UInt32) : Array UInt32 × Nat :=
  let ws := ws.setIfInBounds i w
  if i + 1 < size then (ws, i + 1) else (ws.setIfInBounds 0 w, 1)

/-- The state filled from a key of one or more words. -/
def ofKey (key : Array UInt32) : Array UInt32 :=
  let mixKey := fun (ws, i, j) (_ : Nat) =>
    let w := (ws.getD i 0 ^^^ (folded (ws.getD (i - 1) 0) * 1664525)) + key.getD j 0 + j.toUInt32
    let (ws, i) := place ws i w
    (ws, i, if j + 1 < key.size then j + 1 else 0)
  let mixPlace := fun (ws, i) (_ : Nat) =>
    place ws i ((ws.getD i 0 ^^^ (folded (ws.getD (i - 1) 0) * 1566083941)) - i.toUInt32)
  let (ws, i, _) := (List.range (max size key.size)).foldl mixKey (ofWord 19650218, 1, 0)
  let (ws, _) := (List.range (size - 1)).foldl mixPlace (ws, i)
  ws.setIfInBounds 0 0x80000000

/-- The words of a natural number, the lowest first; zero has one word. -/
def key (n : Nat) : Array UInt32 :=
  ((List.range (n.log2 / 32 + 1)).map fun i => (n >>> (32 * i)).toUInt32).toArray

/-- The generator for a seed; a seed and its negative give the same one. -/
def ofSeed (seed : Int) : Twister := ⟨ofKey (key seed.natAbs), size⟩

/-! ## Output -/

/-- The words of the next round. -/
def refill (words : Array UInt32) : Array UInt32 :=
  let renew := fun (ws : Array UInt32) (i : Nat) =>
    let y := (ws.getD i 0 &&& 0x80000000) ||| (ws.getD ((i + 1) % size) 0 &&& 0x7FFFFFFF)
    let w := ws.getD ((i + shift) % size) 0 ^^^ (y >>> 1)
    ws.setIfInBounds i (if y &&& 1 = 0 then w else w ^^^ 0x9908B0DF)
  (List.range size).foldl renew words

/-- A word as it is given out. -/
def temper (w : UInt32) : UInt32 :=
  let w := w ^^^ (w >>> 11)
  let w := w ^^^ ((w <<< 7) &&& 0x9D2C5680)
  let w := w ^^^ ((w <<< 15) &&& 0xEFC60000)
  w ^^^ (w >>> 18)

/-- The next 32 bits. -/
def word (t : Twister) : UInt32 × Twister :=
  if t.next < size then (temper (t.words.getD t.next 0), { t with next := t.next + 1 })
  else
    let words := refill t.words
    (temper (words.getD 0 0), ⟨words, 1⟩)

/-- A number of `k` bits, the lowest 32 first; the last word gives its high bits. -/
def bits (k : Nat) (t : Twister) : Nat × Twister :=
  if k ≤ 32 then
    let (w, t) := t.word
    (w.toNat >>> (32 - k), t)
  else
    let (w, t) := t.word
    let (high, t) := bits (k - 32) t
    (w.toNat + high <<< 32, t)

/-- A double of 53 random bits. -/
def unit (t : Twister) : Float × Twister :=
  let (a, t) := t.word
  let (b, t) := t.word
  (((a >>> 5).toNat * 67108864 + (b >>> 6).toNat).toFloat / 9007199254740992, t)

/-- How often a number is drawn before zero is taken instead. -/
def patience : Nat := 65536

/-- Draws numbers of `k` bits until one is below `n`; half of them are at least, so few draws suffice. -/
def belowBits (n : Nat) (h : 0 < n) (k : Nat) : Nat → Twister → Fin n × Twister
  | 0, t => (⟨0, h⟩, t)
  | tries + 1, t =>
    let (i, t) := t.bits k
    if hi : i < n then (⟨i, hi⟩, t) else belowBits n h k tries t

def below (n : Nat) (h : 0 < n) (t : Twister) : Fin n × Twister :=
  belowBits n h (n.log2 + 1) patience t

instance : RandomSource Twister := ⟨unit, below⟩

end Twister

end Pipework
