
namespace TestScaffold.Url.Punycode

def digit (n : Nat) : Char := if n < 26 then Char.ofNat (97 + n) else Char.ofNat (22 + n)

def threshold (place bias : Nat) : Nat :=
  if place ≤ bias + 1 then 1 else if bias + 26 ≤ place then 26 else place - bias

theorem threshold_bounds (place bias : Nat) :
    1 ≤ threshold place bias ∧ threshold place bias ≤ 26 := by
  unfold threshold
  split
  · omega
  · split <;> omega

def distance (bias place n : Nat) : List Char :=
  let t := threshold place bias
  if n < t then [digit n]
  else digit (t + (n - t) % (36 - t)) :: distance bias (place + 36) ((n - t) / (36 - t))
  termination_by n
  decreasing_by
    have h := threshold_bounds place bias
    exact Nat.lt_of_le_of_lt (Nat.div_le_self _ _) (by omega)

def settle (n place : Nat) : Nat :=
  if 455 < n then settle (n / 35) (place + 36) else place + 36 * n / (n + 38)
  termination_by n

def bias (first : Bool) (n written : Nat) : Nat :=
  let n := if first then n / 700 else n / 2
  settle (n + n / written) 0

structure Progress where
  digits : List Char := []
  gap : Nat := 0
  bias : Nat := 72
  written : Nat

def pass (plain code : Nat) (p : Progress) (c : Char) : Progress :=
  if c.toNat < code then { p with gap := p.gap + 1 }
  else if c.toNat = code then
    { digits := p.digits ++ distance p.bias 36 p.gap
      gap := 0
      bias := bias (p.written == plain) p.gap (p.written + 1)
      written := p.written + 1 }
  else p

def passes (cs : List Char) (plain next : Nat) (p : Progress) : List Nat → Progress
  | [] => p
  | code :: rest =>
    let p := { p with gap := p.gap + (code - next) * (p.written + 1) }
    let p := cs.foldl (pass plain code) p
    passes cs plain (code + 1) { p with gap := p.gap + 1 } rest

def encode (cs : List Char) : List Char :=
  let plain := cs.filter fun c => c.toNat < 128
  let codes := ((cs.map Char.toNat).filter (128 ≤ ·)).eraseDups.mergeSort
  let p := passes cs plain.length 128 { written := plain.length } codes
  plain ++ (if plain.isEmpty then [] else ['-']) ++ p.digits

def digitValue? (c : Char) : Option Nat :=
  if 'a' ≤ c && c ≤ 'z' then some (c.toNat - 97)
  else if '0' ≤ c && c ≤ '9' then some (c.toNat - 22)
  else none

def readDistance (bias place weight : Nat) : List Char → Option (Nat × List Char)
  | [] => none
  | c :: cs => do
    let n ← digitValue? c
    let t := threshold place bias
    if n < t then return (n * weight, cs)
    let (more, rest) ← readDistance bias (place + 36) (weight * (36 - t)) cs
    return (n * weight + more, rest)

def lastCode : Nat := 0x10ffff

/-- Puts the characters that the digits tell of among those that are there. The next one comes at the place
`place` if it has the code point `code`. -/
def insertAll (fuel : Nat) (first : Bool) (bias code place : Nat) (text : List Char) :
    List Char → Option (List Char)
  | [] => some text
  | digits =>
    match fuel, readDistance bias 36 1 digits with
    | n + 1, some (gap, rest) =>
      let size := text.length + 1
      let code := code + (place + gap) / size
      let place := (place + gap) % size
      if lastCode < code then none
      else
        insertAll n false (Punycode.bias first gap size) code (place + 1)
          (text.take place ++ Char.ofNat code :: text.drop place) rest
    | _, _ => none

def decode (cs : List Char) : Option (List Char) :=
  let digits := (cs.reverse.takeWhile (· != '-')).reverse
  insertAll cs.length true 72 128 0 (cs.take (cs.length - digits.length - 1)) digits

end TestScaffold.Url.Punycode
