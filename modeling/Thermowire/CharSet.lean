import Thermowire.Text

/-!
Sets of characters as ranges of code points, ascending and apart, with the sequences of byte ranges
that encode them.
-/
namespace Thermowire

structure CharSet where
  ranges : List (Nat × Nat)
  deriving DecidableEq, Repr

namespace CharSet

def insertRange (first last : Nat) : List (Nat × Nat) → List (Nat × Nat)
  | [] => [(first, last)]
  | (low, high) :: rest =>
    if last + 1 < low then (first, last) :: (low, high) :: rest
    else if high + 1 < first then (low, high) :: insertRange first last rest
    else insertRange (min first low) (max last high) rest

def ofRanges (ranges : List (Nat × Nat)) : CharSet :=
  ⟨ranges.foldr (fun (first, last) => insertRange first last) []⟩

def range (first last : Char) : CharSet := ⟨[(first.toNat, last.toNat)]⟩

def single (c : Char) : CharSet := range c c

def empty : CharSet := ⟨[]⟩

def union (left right : CharSet) : CharSet := ofRanges (left.ranges ++ right.ranges)

def gaps (next : Nat) : List (Nat × Nat) → List (Nat × Nat)
  | [] => if next ≤ 0x10ffff then [(next, 0x10ffff)] else []
  | (first, last) :: rest =>
    if next < first then (next, first - 1) :: gaps (last + 1) rest else gaps (last + 1) rest

def complement (set : CharSet) : CharSet := ⟨gaps 0 set.ranges⟩

def intersection (left right : CharSet) : CharSet :=
  complement (union left.complement right.complement)

def difference (left right : CharSet) : CharSet := intersection left right.complement

def symmetricDifference (left right : CharSet) : CharSet :=
  union (difference left right) (difference right left)

def contains (set : CharSet) (c : Char) : Bool := inRanges set.ranges c

def isAscii (set : CharSet) : Bool := set.ranges.all (·.2 < 128)

def single? (set : CharSet) : Option Char :=
  match set.ranges with
  | [(first, last)] => if first = last then some (.ofNat first) else none
  | _ => none

def digits : CharSet := range '0' '9'
def uppers : CharSet := range 'A' 'Z'
def lowers : CharSet := range 'a' 'z'
def letters : CharSet := union uppers lowers
def blanks : CharSet := union (range '\t' '\r') (single ' ')
def words : CharSet := union (union digits letters) (single '_')

def anyCase (set : CharSet) : CharSet :=
  let raised := (intersection set lowers).ranges.map fun (first, last) => (first - 32, last - 32)
  let lowered := (intersection set uppers).ranges.map fun (first, last) => (first + 32, last + 32)
  ofRanges (set.ranges ++ raised ++ lowered)

def sequencesBetween : Nat → Nat → Nat → Nat → List (List (Nat × Nat))
  | 0, lead, first, last => [[(lead + first, lead + last)]]
  | more + 1, lead, first, last =>
    let block := Nat.pow 64 (more + 1)
    let within (top low high : Nat) :=
      (sequencesBetween more 0x80 low high).map ((lead + top, lead + top) :: ·)
    let top := first / block
    let bottom := last / block
    if top = bottom then within top (first % block) (last % block)
    else
      let start := if first % block = 0 then top else top + 1
      let stop := if last % block = block - 1 then bottom + 1 else bottom
      (if first % block = 0 then [] else within top (first % block) (block - 1)) ++
        (if start < stop then
          [(lead + start, lead + stop - 1) :: List.replicate (more + 1) (0x80, 0xbf)] else []) ++
        (if last % block = block - 1 then [] else within bottom 0 (last % block))

/-- The code points of each length of encoding, with the continuation bytes and the lead byte. -/
def encodings : List ((Nat × Nat) × Nat × Nat) :=
  [((0, 0x7f), 0, 0), ((0x80, 0x7ff), 1, 0xc0), ((0x800, 0xd7ff), 2, 0xe0),
    ((0xe000, 0xffff), 2, 0xe0), ((0x10000, 0x10ffff), 3, 0xf0)]

def sequences (set : CharSet) : List (List (Nat × Nat)) :=
  set.ranges.flatMap fun (first, last) =>
    encodings.flatMap fun ((low, high), more, lead) =>
      if max first low ≤ min last high then
        sequencesBetween more lead (max first low) (min last high)
      else []

end CharSet
end Thermowire
