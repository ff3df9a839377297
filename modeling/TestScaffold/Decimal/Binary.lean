
namespace TestScaffold.Decimal

structure Binary where
  mantissa : Nat
  exponent : Int
  narrowBelow : Bool
  deriving DecidableEq, Repr

def Binary.ofBits (b : UInt64) : Binary :=
  let e := ((b >>> 52) &&& 0x7ff).toNat
  let f := (b &&& 0xfffffffffffff).toNat
  if e == 0 then ⟨f, -1074, false⟩ else ⟨Nat.pow 2 52 + f, e - 1075, f == 0 && e > 1⟩

def isNegative (x : Float) : Bool := x.toBits >>> 63 == 1

def roundHalfEven (num den : Nat) : Nat :=
  let q := num / den
  let r := num % den
  if 2 * r < den then q
  else if den < 2 * r then q + 1
  else if q % 2 == 0 then q else q + 1

def Binary.rounded (x : Binary) : Nat :=
  roundHalfEven (x.mantissa * Nat.pow 2 x.exponent.toNat) (Nat.pow 2 (-x.exponent).toNat)

def Binary.whole? (x : Binary) : Option Nat :=
  let num := x.mantissa * Nat.pow 2 x.exponent.toNat
  let den := Nat.pow 2 (-x.exponent).toNat
  if num % den == 0 then some (num / den) else none

def whole? (x : Float) : Option Int :=
  if x.isFinite then
    (Binary.ofBits x.toBits).whole?.map fun n => if isNegative x then -n else n
  else none

def nearest (digits : Nat) (exponent : Int) : Float :=
  let size := (Nat.repr digits).length + exponent
  if digits == 0 || size < -400 then 0
  else if 400 < size then 1 / 0
  else Float.ofScientific digits (exponent < 0) exponent.natAbs

end TestScaffold.Decimal
