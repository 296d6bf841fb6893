/-! Reproducible pseudo-random numbers: the keystream of a block cipher of twelve rounds,
keyed from a 64-bit seed. -/

set_option autoImplicit false

namespace PagedMemory.Keystream

abbrev Word := UInt32
/-- Four constants, eight words of key, a block counter in two words, and two zeros. -/
abbrev State := Vector Word 16
abbrev Key := Vector Word 8

def rotateLeft (x n : Word) : Word := (x <<< n) ||| (x >>> (32 - n))
def rotateRight (x n : Word) : Word := (x >>> n) ||| (x <<< (32 - n))

def quarterRound (v : State) (a b c d : Fin 16) : State :=
  let v := v.set a (v[a] + v[b])
  let v := v.set d (rotateLeft (v[d] ^^^ v[a]) 16)
  let v := v.set c (v[c] + v[d])
  let v := v.set b (rotateLeft (v[b] ^^^ v[c]) 12)
  let v := v.set a (v[a] + v[b])
  let v := v.set d (rotateLeft (v[d] ^^^ v[a]) 8)
  let v := v.set c (v[c] + v[d])
  v.set b (rotateLeft (v[b] ^^^ v[c]) 7)

/-- A round of the columns, then one of the diagonals. -/
def doubleRound (v : State) : State :=
  let v := quarterRound v 0 4 8 12
  let v := quarterRound v 1 5 9 13
  let v := quarterRound v 2 6 10 14
  let v := quarterRound v 3 7 11 15
  let v := quarterRound v 0 5 10 15
  let v := quarterRound v 1 6 11 12
  let v := quarterRound v 2 7 8 13
  quarterRound v 3 4 9 14

def start (key : Key) (counter : Nat) : State :=
  #v[0x61707865, 0x3320646e, 0x79622d32, 0x6b206574,
    key[0], key[1], key[2], key[3], key[4], key[5], key[6], key[7],
    UInt32.ofNat counter, UInt32.ofNat (counter / UInt32.size), 0, 0]

def block (key : Key) (counter : Nat) : State :=
  let v := start key counter
  v.zipWith (· + ·) (Nat.repeat doubleRound 6 v)

/-- The next state of the generator that spreads a seed over a key. -/
def advance (state : UInt64) : UInt64 := state * 6364136223846793005 + 11634580027462260723

def keyWord (state : UInt64) : Word :=
  rotateRight (((state >>> 18) ^^^ state) >>> 27).toUInt32 (state >>> 59).toUInt32

def key (seed : UInt64) : Key :=
  Vector.ofFn fun i : Fin 8 => keyWord (Nat.repeat advance (i.val + 1) seed)

def blocks (key : Key) : (n counter : Nat) → List Word
  | 0, _ => []
  | n + 1, counter => (block key counter).toList ++ blocks key n (counter + 1)

def ints (seed : UInt64) (n : Nat) : List Int32 :=
  ((blocks (key seed) ((n + 15) / 16) 0).take n).map UInt32.toInt32

theorem length_blocks (key : Key) (n counter : Nat) : (blocks key n counter).length = 16 * n := by
  induction n generalizing counter with
  | zero => rfl
  | succ n ih => simp [blocks, ih]; omega

theorem length_ints (seed : UInt64) (n : Nat) : (ints seed n).length = n := by
  simp [ints, length_blocks]; omega

end PagedMemory.Keystream
