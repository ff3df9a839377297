
namespace TestScaffold.Text

def occursIn (needle : List Char) : List Char → Bool
  | [] => needle.isEmpty
  | c :: cs => needle.isPrefixOf (c :: cs) || occursIn needle cs

def occurs (needle hay : String) : Bool := occursIn needle.toList hay.toList

def upTo (mark : List Char) : List Char → List Char
  | [] => []
  | c :: cs => if mark.isPrefixOf (c :: cs) then [] else c :: upTo mark cs

def after? (mark : List Char) : List Char → Option (List Char)
  | [] => if mark.isEmpty then some [] else none
  | c :: cs =>
    if mark.isPrefixOf (c :: cs) then some ((c :: cs).drop mark.length) else after? mark cs

def slice (start : Nat) (stop : Int) (cs : List Char) : List Char :=
  let last := if stop < 0 then (stop + cs.length).toNat else stop.toNat
  (cs.drop start).take (last - start)

end TestScaffold.Text
