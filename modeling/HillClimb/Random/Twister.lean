set_option autoImplicit false

/-! # The twister

The generator `MT19937`, which makes 32-bit words from a state of `Twister.size` of them. The state
is drawn on word by word (`Twister.next`), and when all are used up, a new state is twisted out of
the old one (`Twister.twist`). `Twister.bits`, `Twister.below` and `Twister.fraction` make numbers
of the words. -/

namespace HillClimb

/-- The state of the generator, and how many of its words are used up. -/
structure Twister where
  words : Array UInt32
  used : Nat
  deriving Repr, Inhabited

namespace Twister

/-- The number of words of a state. -/
def size : Nat := 624

/-! ## Seeding -/

/-- The words of a natural number, least significant first; at least one. They are the key of
    `ofKey`. -/
def wordsOf (n : Nat) : Array UInt32 :=
  (Array.range (n.log2 / 32 + 1)).map fun i => UInt32.ofNat (n / Nat.pow 2 (32 * i))

/-- A word stirred with itself. -/
def stir (w : UInt32) : UInt32 := w ^^^ (w >>> 30)

/-- The state that all seeds start from. -/
def base : Array UInt32 :=
  (List.range (size - 1)).foldl
    (fun words i => words.push (1812433253 * stir (words.getD i 0) + UInt32.ofNat (i + 1)))
    #[19650218]

/-- One step of mixing into the state: place `i` gets what `mix` makes of its word and of the
    stirred word before it, and place zero follows the last place. -/
def mixAt (mix : UInt32 → UInt32 → UInt32) (state : Array UInt32 × Nat) : Array UInt32 × Nat :=
  let (words, i) := state
  let fresh := mix (words.getD i 0) (stir (words.getD (i - 1) 0))
  let words := words.setIfInBounds i fresh
  if i + 1 < size then (words, i + 1) else (words.setIfInBounds 0 fresh, 1)

/-- The state of a key: the `base` with the words of the key mixed into it, and mixed again. -/
def ofKey (key : Array UInt32) : Twister :=
  let first := (List.range (max size key.size)).foldl
    (fun state k =>
      let j := k % key.size
      mixAt (fun w s => (w ^^^ (s * 1664525)) + key.getD j 0 + UInt32.ofNat j) state)
    (base, 1)
  let second := (List.range (size - 1)).foldl
    (fun state _ =>
      mixAt (fun w s => (w ^^^ (s * 1566083941)) - UInt32.ofNat state.2) state)
    first
  ⟨second.1.setIfInBounds 0 0x80000000, size⟩

/-- The generator of a seed. Seeds of one absolute value have one generator. -/
def ofSeed (seed : Int) : Twister := ofKey (wordsOf seed.natAbs)

/-! ## Drawing words -/

/-- The state after `words`: each place gets the word 397 places on, mixed with the first bit of
    its own and the other bits of the next word. -/
def twist (words : Array UInt32) : Array UInt32 :=
  (List.range size).foldl
    (fun words i =>
      let joined := (words.getD i 0 &&& 0x80000000) |||
        (words.getD ((i + 1) % size) 0 &&& 0x7fffffff)
      let matrix : UInt32 := if joined &&& 1 = 0 then 0 else 0x9908b0df
      words.setIfInBounds i (words.getD ((i + 397) % size) 0 ^^^ (joined >>> 1) ^^^ matrix))
    words

/-- A word of the state made ready to be handed out by `next`. -/
def temper (w : UInt32) : UInt32 :=
  let w := w ^^^ (w >>> 11)
  let w := w ^^^ ((w <<< 7) &&& 0x9d2c5680)
  let w := w ^^^ ((w <<< 15) &&& 0xefc60000)
  w ^^^ (w >>> 18)

/-- The next word. -/
def next (t : Twister) : UInt32 × Twister :=
  if t.used < size then (temper (t.words.getD t.used 0), { t with used := t.used + 1 })
  else
    let words := twist t.words
    (temper (words.getD 0 0), ⟨words, 1⟩)

/-! ## Drawing numbers -/

/-- A number of `bits` bits out of at most `count` words, least significant words first; of the
    last word the highest bits are taken. -/
def gather : Nat → Nat → Twister → Nat × Twister
  | 0, _, t => (0, t)
  | count + 1, bits, t =>
    let (w, t) := t.next
    if bits ≤ 32 then (w.toNat / Nat.pow 2 (32 - bits), t)
    else
      let (rest, t) := gather count (bits - 32) t
      (w.toNat + Nat.pow 2 32 * rest, t)

/-- A number of `bits` random bits. No word is drawn for no bits. -/
def bits (bits : Nat) (t : Twister) : Nat × Twister := gather ((bits + 31) / 32) bits t

/-- The number of bits of a number. -/
def bitLength (n : Nat) : Nat := if n = 0 then 0 else n.log2 + 1

/-- How often `drawBelow` draws a number that is too large again. Each draw is refused with a chance
    of at most one half, so no seed comes near this. -/
def attempts : Nat := 4096

/-- Draws numbers of `width` bits until one is below the bound. -/
def drawBelow (bound width : Nat) : Nat → Twister → Nat × Twister
  | 0, t => (0, t)
  | n + 1, t =>
    let (drawn, t) := t.bits width
    if drawn < bound then (drawn, t) else drawBelow bound width n t

/-- A number below the bound: numbers of as many bits as the bound has are drawn by `drawBelow`. -/
def below (bound : Nat) (t : Twister) : Nat × Twister :=
  drawBelow bound (bitLength bound) attempts t

/-- A fraction with 53 random bits, given by its numerator over `2 ^ 53`. -/
def fraction (t : Twister) : Nat × Twister :=
  let (a, t) := t.next
  let (b, t) := t.next
  ((a >>> 5).toNat * 67108864 + (b >>> 6).toNat, t)

end Twister

end HillClimb
