import OracleIndexer.Text.Numeral
set_option autoImplicit false

/-!
# Binary64

Floating-point numbers of 53 significant bits, kept exactly as a whole number times a power of two.
A decimal is rounded to the nearest one, a tie going to the even significand, and so are sums and
products.  Written back, a number gets the fewest digits that round to it, and of those the nearest
ones.
-/

namespace OracleIndexer

/-- A floating-point number.  A finite one is `significand * 2 ^ exponent` with its sign. -/
inductive Binary64 where
  | finite (negative : Bool) (significand : Nat) (exponent : Int)
  | infinite (negative : Bool)
  | notANumber
  deriving DecidableEq, Repr, Inhabited

namespace Binary64

/-- The least exponent of a finite number. -/
def minExponent : Int := -1074

/-- The greatest exponent of a finite number. -/
def maxExponent : Int := 971

/-- `n / d` rounded to a whole number, a tie going to the even neighbour. -/
def roundDiv (n d : Nat) : Nat :=
  let q := n / d
  let r := n % d
  if 2 * r < d then q
  else if d < 2 * r then q + 1
  else q + q % 2

/-- The quotient `n / d` divided by `2 ^ exponent`, as numerator and denominator. -/
def scaled (n d : Nat) (exponent : Int) : Nat × Nat :=
  match exponent with
  | .ofNat k => (n, d <<< k)
  | .negSucc k => (n <<< (k + 1), d)

/-- The exponent at which the quotient has 53 bits before the point, or the least one. -/
def exponentOf (n d : Nat) : Int :=
  let guess : Int := (Nat.log2 n : Int) - Nat.log2 d - 52
  let (num, den) := scaled n d guess
  let exact := if num / den < 1 <<< 52 then guess - 1 else guess
  max exact minExponent

/-- The floating-point number nearest to a non-negative quotient. -/
def ofQuotient (negative : Bool) (n d : Nat) : Binary64 :=
  if n = 0 then .finite negative 0 minExponent
  else
    let exponent := exponentOf n d
    let (num, den) := scaled n d exponent
    let significand := roundDiv num den
    let (significand, exponent) :=
      if significand = 1 <<< 53 then (1 <<< 52, exponent + 1) else (significand, exponent)
    if maxExponent < exponent then .infinite negative
    else .finite negative significand exponent

/-- The number of decimal digits of a positive number. -/
def decimalLength (n : Nat) : Nat := (Nat.toDigits 10 n).length

/-- The floating-point number nearest to `coefficient * 10 ^ power`.  Powers far outside the range
of finite numbers are decided by the length of the coefficient alone. -/
def ofDecimal (negative : Bool) (coefficient : Nat) (power : Int) : Binary64 :=
  if coefficient = 0 then .finite negative 0 minExponent
  else
    let reach := (decimalLength coefficient : Int) + power
    if 310 < reach then .infinite negative
    else if reach < -330 then .finite negative 0 minExponent
    else match power with
      | .ofNat k => ofQuotient negative (coefficient * Nat.pow 10 k) 1
      | .negSucc k => ofQuotient negative coefficient (Nat.pow 10 (k + 1))

/-- The magnitude of a finite number as a quotient. -/
def quotient (significand : Nat) (exponent : Int) : Nat × Nat :=
  match exponent with
  | .ofNat k => (significand <<< k, 1)
  | .negSucc k => (significand, 1 <<< (k + 1))

/-- The floating-point number nearest to `n * 2 ^ exponent`. -/
def ofScaled (negative : Bool) (n : Nat) (exponent : Int) : Binary64 :=
  let (num, den) := quotient n exponent
  ofQuotient negative num den

/-- The number with the other sign. -/
def neg : Binary64 → Binary64
  | .finite negative significand exponent => .finite (!negative) significand exponent
  | .infinite negative => .infinite (!negative)
  | .notANumber => .notANumber

/-- The product of two numbers; infinity times zero is undefined. -/
def mul : Binary64 → Binary64 → Binary64
  | .finite s m e, .finite t n f => ofScaled (s != t) (m * n) (e + f)
  | .finite s m _, .infinite t => if m = 0 then .notANumber else .infinite (s != t)
  | .infinite s, .finite t n _ => if n = 0 then .notANumber else .infinite (s != t)
  | .infinite s, .infinite t => .infinite (s != t)
  | .notANumber, _ => .notANumber
  | _, .notANumber => .notANumber

/-- A magnitude with its sign, as a multiple of a power of two not above its own. -/
def aligned (negative : Bool) (significand : Nat) (exponent least : Int) : Int :=
  let n := significand <<< (exponent - least).toNat
  if negative then -(n : Int) else n

/-- The sum of two numbers.  A sum of zero is negative only if both are; infinities of unlike signs
have none. -/
def add : Binary64 → Binary64 → Binary64
  | .finite s m e, .finite t n f =>
    let least := min e f
    let sum := aligned s m e least + aligned t n f least
    if sum = 0 then .finite (s && t) 0 minExponent
    else ofScaled (decide (sum < 0)) sum.natAbs least
  | .finite _ _ _, .infinite t => .infinite t
  | .infinite s, .finite _ _ _ => .infinite s
  | .infinite s, .infinite t => if s = t then .infinite s else .notANumber
  | .notANumber, _ => .notANumber
  | _, .notANumber => .notANumber

/-- The number nearest to a natural number, if one is near. -/
def ofNat? (n : Nat) : Option Binary64 :=
  match ofQuotient false n 1 with
  | .infinite _ => none
  | x => some x

/-- The power of ten just above a positive quotient: `10 ^ (p - 1) ≤ n / d < 10 ^ p`. -/
def decimalPoint (n d : Nat) : Int :=
  let guess : Int := (decimalLength n : Int) - decimalLength d
  let reached : Bool := match guess with
    | .ofNat k => decide (d * Nat.pow 10 k ≤ n)
    | .negSucc k => decide (d ≤ n * Nat.pow 10 (k + 1))
  if reached then guess + 1 else guess

/-- The neighbours of `n / d` among the multiples of `10 ^ power`, the nearer one first. -/
def decimalNeighbours (n d : Nat) (power : Int) : List Nat :=
  let (num, den) := match power with
    | .ofNat k => (n, d * Nat.pow 10 k)
    | .negSucc k => (n * Nat.pow 10 (k + 1), d)
  let below := num / den
  if 2 * (num % den) ≤ den then [below, below + 1] else [below + 1, below]

/-- The first digit count, from `count` on and with `left` further ones to try, at which a decimal
with so many digits rounds to `target`, with that decimal's coefficient and power. -/
def shortestFrom (target : Binary64) (n d : Nat) (point : Int) (count : Nat) :
    Nat → Nat × Int
  | 0 => ((decimalNeighbours n d (point - count)).headD 0, point - count)
  | left + 1 =>
    let power := point - count
    match (decimalNeighbours n d power).find? fun c =>
        decide (ofDecimal false c power = target) with
    | some c => (c, power)
    | none => shortestFrom target n d point (count + 1) left

/-- The shortest decimal, coefficient and power, that rounds to a positive finite number. -/
def shortest (significand : Nat) (exponent : Int) : Nat × Int :=
  let (n, d) := quotient significand exponent
  shortestFrom (.finite false significand exponent) n d (decimalPoint n d) 1 16

/-- Drops the zeros at the end of a coefficient's digits. -/
def withoutTrailingZeros (digits : List Char) : List Char :=
  (digits.reverse.dropWhile (· == '0')).reverse

/-- A positive decimal written out: positional when the point stands from four places before the
first digit to sixteen after it, with an exponent of at least two digits otherwise. -/
def layOut (coefficient : Nat) (power : Int) : List Char :=
  let all := Nat.toDigits 10 coefficient
  let point : Int := all.length + power
  let digits := withoutTrailingZeros all
  if -4 < point ∧ point ≤ 16 then
    if point ≤ 0 then
      '0' :: '.' :: List.replicate (-point).toNat '0' ++ digits
    else if (digits.length : Int) ≤ point then
      digits ++ List.replicate (point.toNat - digits.length) '0' ++ ['.', '0']
    else digits.take point.toNat ++ '.' :: digits.drop point.toNat
  else
    let e := point - 1
    let mantissa := match digits with
      | first :: second :: rest => first :: '.' :: second :: rest
      | few => few
    mantissa ++ 'e' :: (if e < 0 then '-' else '+') :: Text.Numeral.paddedDecimal 2 e.natAbs

/-- The text of a finite number; a zero keeps its sign. -/
def finiteText (negative : Bool) (significand : Nat) (exponent : Int) : List Char :=
  let text :=
    if significand = 0 then ['0', '.', '0']
    else
      let (coefficient, power) := shortest significand exponent
      layOut coefficient power
  if negative then '-' :: text else text

/-- Whether a number equals zero, with either sign. -/
def isZero : Binary64 → Bool
  | .finite _ significand _ => significand == 0
  | _ => false

/-- The whole number that a finite number equals, if it equals one. -/
def toInt? : Binary64 → Option Int
  | .finite negative significand exponent =>
    let (n, d) := quotient significand exponent
    if n % d = 0 then some (if negative then -((n / d : Nat) : Int) else (n / d : Nat)) else none
  | _ => none

end Binary64

end OracleIndexer
