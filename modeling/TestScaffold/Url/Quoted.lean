import TestScaffold.Text.Word

namespace TestScaffold.Url

open Text

def upperHexDigit (n : Nat) : Char := if n < 10 then Char.ofNat (48 + n) else Char.ofNat (55 + n)

def byteQuoted (b : UInt8) : List Char :=
  ['%', upperHexDigit (b.toNat / 16), upperHexDigit (b.toNat % 16)]

def utf8 (cs : List Char) : List UInt8 := (String.ofList cs).toUTF8.toList

def quote (safe : Char → Bool) (cs : List Char) : List Char :=
  cs.flatMap fun c => if safe c then [c] else (utf8 [c]).flatMap byteQuoted

def visibleBut (others : String) (c : Char) : Bool := '!' ≤ c && c ≤ '~' && !others.contains c

def pathSafe : Char → Bool := visibleBut "\"#<>?`\x7b\x7d"

def querySafe : Char → Bool := visibleBut "\"#<>"

def fragmentSafe : Char → Bool := visibleBut "\"<>`"

def userSafe : Char → Bool := visibleBut "\"#<>?`\x7b\x7d/;=@[\\]^|"

def hostSafe : Char → Bool := visibleBut "#/:<>?@[]^"

def formSafe (c : Char) : Bool := c.isAlphanum || ['_', '.', '-', '~'].contains c

def formQuoted (cs : List Char) : List Char :=
  cs.flatMap fun c => if c = ' ' then ['+'] else quote formSafe [c]

def hexValue? (c : Char) : Option Nat :=
  if isAsciiDigit c then some (c.toNat - 48)
  else if 'a' ≤ c && c ≤ 'f' then some (c.toNat - 87)
  else if 'A' ≤ c && c ≤ 'F' then some (c.toNat - 55)
  else none

def unquotedBytes : List Char → List UInt8
  | [] => []
  | '%' :: a :: b :: cs =>
    match hexValue? a, hexValue? b with
    | some m, some n => UInt8.ofNat (16 * m + n) :: unquotedBytes cs
    | _, _ => 37 :: unquotedBytes (a :: b :: cs)
  | c :: cs => utf8 [c] ++ unquotedBytes cs

structure Opened where
  seen : List UInt8
  left : Nat
  low : UInt8 := 0x80
  high : UInt8 := 0xbf

def replacement : List UInt8 := utf8 ['\ufffd']

def opened (b : UInt8) : List UInt8 × Option Opened :=
  if b < 0x80 then ([b], none)
  else if 0xc2 ≤ b && b ≤ 0xdf then ([], some { seen := [b], left := 1 })
  else if b == 0xe0 then ([], some { seen := [b], left := 2, low := 0xa0 })
  else if b == 0xed then ([], some { seen := [b], left := 2, high := 0x9f })
  else if 0xe1 ≤ b && b ≤ 0xef then ([], some { seen := [b], left := 2 })
  else if b == 0xf0 then ([], some { seen := [b], left := 3, low := 0x90 })
  else if b == 0xf4 then ([], some { seen := [b], left := 3, high := 0x8f })
  else if 0xf1 ≤ b && b ≤ 0xf3 then ([], some { seen := [b], left := 3 })
  else (replacement, none)

def mended (open? : Option Opened) : List UInt8 → List UInt8
  | [] => if open?.isSome then replacement else []
  | b :: bs =>
    match open? with
    | none => (opened b).1 ++ mended (opened b).2 bs
    | some o =>
      if o.low ≤ b && b ≤ o.high then
        if o.left ≤ 1 then o.seen ++ [b] ++ mended none bs
        else mended (some { seen := o.seen ++ [b], left := o.left - 1 }) bs
      else replacement ++ (opened b).1 ++ mended (opened b).2 bs

def base64Digits : List Char :=
  "ABCDEFGHIJKLMNOPQRSTUVWXYZabcdefghijklmnopqrstuvwxyz0123456789+/".toList

def base64Of (count n : Nat) : List Char :=
  (List.range count).reverse.map fun k => base64Digits.getD (n / Nat.pow 64 k % 64) 'A'

def base64 : List UInt8 → List Char
  | a :: b :: c :: bs => base64Of 4 ((a.toNat * 256 + b.toNat) * 256 + c.toNat) ++ base64 bs
  | [a, b] => base64Of 3 ((a.toNat * 256 + b.toNat) * 4) ++ ['=']
  | [a] => base64Of 2 (a.toNat * 16) ++ ['=', '=']
  | [] => []

theorem quote_eq_self {safe : Char → Bool} {cs : List Char} (h : ∀ c ∈ cs, safe c = true) :
    quote safe cs = cs := by
  induction cs with
  | nil => rfl
  | cons c cs ih =>
    have hc := h c List.mem_cons_self
    have ht := ih fun d hd => h d (List.mem_cons_of_mem _ hd)
    simp only [quote] at ht
    simp [quote, hc, ht]

end TestScaffold.Url
