import TestScaffold.Pattern.Basic

namespace TestScaffold

universe u

structure Found (ι : Type u) where
  start : Nat
  stop : Nat
  captures : List (ι × Stretch)

namespace Found

variable {ι : Type u}

def takes (m : Found ι) (offset : Nat) : Bool := m.start ≤ offset && offset < m.stop

variable [DecidableEq ι]

def stretch? (m : Found ι) (i : ι) : Option Stretch :=
  (m.captures.find? (·.1 = i)).map (·.2)

def text? (m : Found ι) (i : ι) : Option (List Char) := (m.stretch? i).map Stretch.text

def text (m : Found ι) (i : ι) : List Char := (m.text? i).getD []

def string? (m : Found ι) (i : ι) : Option String := (m.text? i).map String.ofList

def string (m : Found ι) (i : ι) : String := String.ofList (m.text i)

def startOf (m : Found ι) (i : ι) : Nat := ((m.stretch? i).map (·.start)).getD 0

end Found

namespace Pattern

variable {ι : Type u}

def matchAt (p : Pattern ι) (fit : Cursor ι → Bool) (s : Cursor ι) : Option (Found ι) :=
  p.run (fun t => if fit t then some ⟨s.offset, t.offset, t.captures⟩ else none) s

def here? (p : Pattern ι) (s : Cursor ι) : Option (Found ι) :=
  p.run (fun t => some ⟨s.offset, t.offset, t.captures⟩) s

def match? (p : Pattern ι) (cs : List Char) : Option (Found ι) := p.here? (.ofText cs)

def covers (p : Pattern ι) (cs : List Char) : Bool :=
  (p.matchAt (·.ahead.isEmpty) (.ofText cs)).isSome

def searchFrom (p : Pattern ι) (before : Option Char) (offset : Nat) : List Char → Option (Found ι)
  | [] => p.here? ⟨before, offset, [], []⟩
  | c :: cs =>
    (p.here? ⟨before, offset, c :: cs, []⟩).orElse fun _ => searchFrom p (some c) (offset + 1) cs

def search? (p : Pattern ι) (cs : List Char) : Option (Found ι) := p.searchFrom none 0 cs

/-- The matches at or behind the offset `free`, each starting no earlier than where the one before
ended. -/
def scanFrom (p : Pattern ι) (free : Nat) (before : Option Char) (offset : Nat) :
    List Char → List (Found ι)
  | [] => if offset < free then [] else (p.here? ⟨before, offset, [], []⟩).toList
  | c :: cs =>
    if offset < free then scanFrom p free (some c) (offset + 1) cs
    else match p.here? ⟨before, offset, c :: cs, []⟩ with
      | some m => m :: scanFrom p m.stop (some c) (offset + 1) cs
      | none => scanFrom p free (some c) (offset + 1) cs

def scan (p : Pattern ι) (cs : List Char) : List (Found ι) := p.scanFrom 0 none 0 cs

def occurs (p : Pattern ι) (cs : List Char) : Bool := (p.search? cs).isSome

def erase (p : Pattern ι) (cs : List Char) : List Char :=
  let ms := p.scan cs
  (cs.zipIdx.filter fun c => !ms.any (·.takes c.2)).map (·.1)

end Pattern

end TestScaffold
