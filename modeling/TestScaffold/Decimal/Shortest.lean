import TestScaffold.Decimal.Binary

/-!
The shortest decimal that reads back as a given double, and the text of a double made from it: plain
from 0.0001 to below 10 ^ 16, with an exponent of at least two digits elsewhere.
-/

namespace TestScaffold.Decimal

structure Scaled where
  digits : Nat
  exponent : Int
  deriving DecidableEq, Repr

structure Interval where
  low : Nat
  value : Nat
  high : Nat
  denominator : Nat
  closed : Bool

def Binary.interval (x : Binary) : Interval :=
  let up := Nat.pow 2 (x.exponent - 2).toNat
  let m := 4 * x.mantissa
  ⟨(if x.narrowBelow then m - 1 else m - 2) * up, m * up, (m + 2) * up,
    Nat.pow 2 (2 - x.exponent).toNat, x.mantissa % 2 == 0⟩

namespace Interval

def inUnits (i : Interval) (k : Int) : Interval :=
  let down := Nat.pow 10 (-k).toNat
  ⟨i.low * down, i.value * down, i.high * down, i.denominator * Nat.pow 10 k.toNat, i.closed⟩

def holds (i : Interval) (d : Nat) : Bool :=
  let n := d * i.denominator
  if i.closed then i.low ≤ n && n ≤ i.high else i.low < n && n < i.high

def wholeNear? (i : Interval) : Option Nat :=
  let below := i.value / i.denominator
  let nearer :=
    roundHalfEven i.value i.denominator
  let other := if nearer == below then below + 1 else below
  if i.holds nearer then some nearer else if i.holds other then some other else none

def magnitude (i : Interval) : Int :=
  let bits : Int := Nat.log2 i.value - Nat.log2 i.denominator
  let estimate := bits * 30103 / 100000
  let fits := fun p : Int =>
    let j := i.inUnits p
    j.value < j.denominator
  ([estimate - 1, estimate, estimate + 1, estimate + 2].find? fits).getD (estimate + 2)

end Interval

def stripZeros : Nat → Scaled → Scaled
  | 0, s => s
  | n + 1, s => if s.digits % 10 == 0 then stripZeros n ⟨s.digits / 10, s.exponent + 1⟩ else s

def Binary.shortest (x : Binary) : Scaled :=
  if x.mantissa == 0 then ⟨0, 0⟩ else
  let i := x.interval
  let p := i.magnitude
  let tries := (List.range 17).map fun n : Nat => p - (n + 1 : Int)
  match tries.findSome? fun k => (i.inUnits k).wholeNear?.map (Scaled.mk · k) with
  | some s => stripZeros 20 s
  | none => ⟨x.mantissa * Nat.pow 2 x.exponent.toNat * Nat.pow 5 (-x.exponent).toNat, min x.exponent 0⟩

def zeros (n : Nat) : String := String.ofList (List.replicate n '0')

def pointed (ds : List Char) (point : Int) : String :=
  if point ≤ 0 then "0." ++ zeros (-point).toNat ++ String.ofList ds
  else
    let n := point.toNat
    if ds.length ≤ n then String.ofList ds ++ zeros (n - ds.length) ++ ".0"
    else String.ofList (ds.take n) ++ "." ++ String.ofList (ds.drop n)

def exponentText (e : Int) : String :=
  let s := Nat.repr e.natAbs
  (if e < 0 then "e-" else "e+") ++ (if s.length < 2 then "0" ++ s else s)

def Scaled.text (s : Scaled) : String :=
  let ds := (Nat.repr s.digits).toList
  let point := s.exponent + ds.length
  if s.digits == 0 then "0.0"
  else if -4 < point && point ≤ 16 then pointed ds point
  else
    let tail := if ds.length ≤ 1 then "" else "." ++ String.ofList (ds.drop 1)
    String.ofList (ds.take 1) ++ tail ++ exponentText (point - 1)

def text (x : Float) : String :=
  if x.isNaN then "nan"
  else
    let size := if x.isInf then "inf" else (Binary.ofBits x.toBits).shortest.text
    if isNegative x then "-" ++ size else size

def wholeText (x : Float) : String :=
  if x.isNaN then "nan"
  else
    let size := if x.isInf then "inf" else Nat.repr (Binary.ofBits x.toBits).rounded
    if isNegative x then "-" ++ size else size

end TestScaffold.Decimal
