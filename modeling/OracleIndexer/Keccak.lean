set_option autoImplicit false

/-!
# Keccak-256

The sponge over twenty-five lanes of 64 bits with a rate of 136 bytes.  Lane `(x, y)` stands at
position `x + 5 * y`.
-/

namespace OracleIndexer.Keccak

/-- The state of the sponge. -/
abbrev State := Vector UInt64 25

/-- The lane at column `x` and row `y`, both taken modulo five. -/
def lane (a : State) (x y : Nat) : UInt64 :=
  a.get ⟨x % 5 + 5 * (y % 5), by omega⟩

/-- The state with a lane for each column and row. -/
def ofLanes (f : Nat → Nat → UInt64) : State :=
  Vector.ofFn fun i => f (i.val % 5) (i.val / 5)

/-- Rotation towards the high end. -/
def rotate (w : UInt64) (n : Nat) : UInt64 :=
  if n = 0 then w else (w <<< UInt64.ofNat n) ||| (w >>> UInt64.ofNat (64 - n))

/-- The parity of a column. -/
def parity (a : State) (x : Nat) : UInt64 :=
  lane a x 0 ^^^ lane a x 1 ^^^ lane a x 2 ^^^ lane a x 3 ^^^ lane a x 4

/-- Adds to each lane the parities of two neighbouring columns. -/
def theta (a : State) : State :=
  let parities : Vector UInt64 5 := Vector.ofFn fun x => parity a x.val
  let column (x : Nat) : UInt64 := parities.get ⟨x % 5, by omega⟩
  ofLanes fun x y => lane a x y ^^^ column (x + 4) ^^^ rotate (column (x + 1)) 1

/-- How far each lane is rotated. -/
def offsets : List Nat :=
  [0, 1, 62, 28, 27, 36, 44, 6, 55, 20, 3, 10, 43, 25, 39, 41, 45, 15, 21, 8, 18, 2, 61, 56, 14]

/-- Rotates each lane. -/
def rho (a : State) : State :=
  ofLanes fun x y => rotate (lane a x y) (offsets[x + 5 * y]?.getD 0)

/-- Moves each lane to its new place. -/
def pi (a : State) : State := ofLanes fun x y => lane a (x + 3 * y) x

/-- Combines each lane with two to its right. -/
def chi (a : State) : State :=
  ofLanes fun x y => lane a x y ^^^ (~~~(lane a (x + 1) y) &&& lane a (x + 2) y)

/-- Adds a round's constant to the first lane. -/
def iota (a : State) (constant : UInt64) : State :=
  ofLanes fun x y => if x = 0 ∧ y = 0 then lane a 0 0 ^^^ constant else lane a x y

/-- The constants of the twenty-four rounds. -/
def roundConstants : List UInt64 :=
  [0x0000000000000001, 0x0000000000008082, 0x800000000000808A, 0x8000000080008000,
   0x000000000000808B, 0x0000000080000001, 0x8000000080008081, 0x8000000000008009,
   0x000000000000008A, 0x0000000000000088, 0x0000000080008009, 0x000000008000000A,
   0x000000008000808B, 0x800000000000008B, 0x8000000000008089, 0x8000000000008003,
   0x8000000000008002, 0x8000000000000080, 0x000000000000800A, 0x800000008000000A,
   0x8000000080008081, 0x8000000000008080, 0x0000000080000001, 0x8000000080008008]

/-- The permutation of the state. -/
def permute (a : State) : State :=
  roundConstants.foldl (fun s constant => iota (chi (pi (rho (theta s)))) constant) a

/-- The number of bytes taken in before each permutation. -/
def rate : Nat := 136

/-- Bytes filled up to a multiple of the rate. -/
def padded (bytes : List UInt8) : List UInt8 :=
  let missing := rate - bytes.length % rate
  if missing = 1 then bytes ++ [0x81]
  else bytes ++ 0x01 :: List.replicate (missing - 2) 0 ++ [0x80]

/-- The lane of eight bytes, the lowest first. -/
def laneOf (bytes : List UInt8) : UInt64 :=
  bytes.foldr (fun b w => (w <<< 8) ||| b.toUInt64) 0

/-- Takes in one block of bytes. -/
def absorbBlock (a : State) (block : List UInt8) : State :=
  permute (ofLanes fun x y =>
    let i := x + 5 * y
    if i < rate / 8 then lane a x y ^^^ laneOf ((block.drop (8 * i)).take 8) else lane a x y)

/-- Takes in a number of blocks. -/
def absorb : Nat → State → List UInt8 → State
  | 0, a, _ => a
  | n + 1, a, bytes => absorb n (absorbBlock a (bytes.take rate)) (bytes.drop rate)

/-- A lane as eight digits of base 256, the lowest first. -/
def laneBytes (w : UInt64) : List Nat := (List.range 8).map fun i => (w.toNat >>> (8 * i)) % 256

/-- The digest as a number, its first byte the most significant. -/
def digest (bytes : List UInt8) : Nat :=
  let input := padded bytes
  let a := absorb (input.length / rate) (ofLanes fun _ _ => 0) input
  let output := (List.range 4).flatMap fun x => laneBytes (lane a x 0)
  output.foldl (fun n b => n * 256 + b) 0

end OracleIndexer.Keccak
