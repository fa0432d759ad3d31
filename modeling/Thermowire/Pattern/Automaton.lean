import Thermowire.Pattern

/-!
The automata of a pattern, which read a text's bytes forward or backward, and the memory that they
take. A state takes 32 bytes; a state with several ways out takes 8 more for each range of bytes and
4 for each way without one.
-/
namespace Thermowire.Pattern

def stateSize : Nat := 32
def rangeSize : Nat := 8
def jumpSize : Nat := 4

def total (sizes : List Nat) : Nat := sizes.foldr (· + ·) 0

def forkSize (jumps : Nat) : Nat := stateSize + jumpSize * jumps

def properPrefixes {α : Type} : List α → List (List α)
  | [] => []
  | a :: rest => [] :: (properPrefixes rest).map (a :: ·)

def behind? {α : Type} [DecidableEq α] : List α → List α → Option (List α)
  | [], rest => some rest
  | _, [] => none
  | a :: start, b :: rest => if a = b then behind? start rest else none

def forwardSetSize (sequences : List (List (Nat × Nat))) : Nat :=
  let states := (sequences.flatMap properPrefixes).eraseDups.map fun start =>
    sequences.filterMap (behind? start)
  let sizes := states.eraseDups.map fun behind =>
    stateSize + rangeSize * (behind.filterMap List.head?).eraseDups.length
  stateSize + total sizes

def backwardSetSize (sequences : List (List (Nat × Nat))) : Nat :=
  let ends := (sequences.flatMap fun bytes => (properPrefixes (bytes ++ [(0, 0)])).tail).eraseDups
  stateSize + forkSize sequences.length + stateSize * ends.length

/-- A single character takes a state for each byte. -/
def setSize (backward : Bool) (set : CharSet) : Nat :=
  match set.single? with
  | some c => stateSize * c.utf8Size
  | none =>
    if set.isAscii then 2 * stateSize + rangeSize * set.ranges.length
    else if backward then backwardSetSize set.sequences
    else forwardSetSize set.sequences

def chunks (words : List (List UInt8)) : List (List (List UInt8)) :=
  words.foldr (fun word chunks =>
    match word, chunks with
    | [], chunks => [] :: chunks
    | word, chunk :: chunks => (word :: chunk) :: chunks
    | word, [] => [[word]]) [[]]

/-- Fixed words make a tree, where a node that words go on from forks into what they go on with. -/
def treeSize : Nat → List (List UInt8) → Nat
  | 0, _ => 0
  | depth + 1, words =>
    if words.all List.isEmpty then 0
    else
      let chunks := chunks words
      let sizes := chunks.map fun chunk =>
        let bytes := (chunk.filterMap List.head?).eraseDups
        let below := bytes.map fun byte =>
          treeSize depth (chunk.filterMap (behind? [byte]))
        (if bytes.length ≤ 1 then stateSize * bytes.length
          else stateSize + rangeSize * bytes.length) + total below
      forkSize ((chunks.filter (!·.isEmpty)).length + (chunks.length - 1)) + total sizes

def literal? : Pattern → Option Text
  | one set => set.single?.map ([·])
  | both first second => do return (← first.literal?) ++ (← second.literal?)
  | _ => none

def isFull : Pattern → Bool
  | empty => false
  | one set => !set.ranges.isEmpty
  | here _ => false
  | both first second => first.isFull || second.isFull
  | either left right => left.isFull && right.isFull
  | repeated pattern least _ => pattern.isFull && least != 0
  | group pattern => pattern.isFull

def wordsSize (backward : Bool) (words : List Text) : Nat :=
  let words := words.map fun word =>
    let bytes := word.flatMap String.utf8EncodeChar
    if backward then bytes.reverse else bytes
  stateSize + treeSize (total (words.map List.length) + 1) words

def repeatedSize (full : Bool) (size least : Nat) : Option Nat → Nat
  | none =>
    if least = 0 then if full then forkSize 2 + size else 2 * forkSize 2 + stateSize + size
    else least * size + forkSize 2
  | some most =>
    if least = most then least * size
    else if most = 1 then forkSize 2 + stateSize + size
    else (if least = 0 then stateSize else least * size) + stateSize +
      (most - least) * (forkSize 2 + size)

def choiceSize (backward : Bool) (pattern : Pattern) : List Nat → Nat
  | [size] => size
  | sizes =>
    match pattern.branches.mapM literal? with
    | some words => wordsSize backward words
    | none => forkSize sizes.length + stateSize + total sizes

def sizes (backward : Bool) : Pattern → List Nat
  | empty => [stateSize]
  | one set => [setSize backward set]
  | here _ => [stateSize]
  | both first second =>
    [choiceSize backward first (first.sizes backward) +
      choiceSize backward second (second.sizes backward)]
  | either left right => left.sizes backward ++ right.sizes backward
  | repeated pattern least most =>
    [repeatedSize pattern.isFull (choiceSize backward pattern (pattern.sizes backward)) least most]
  | group pattern =>
    [(if backward then 0 else 2 * stateSize) +
      choiceSize backward pattern (pattern.sizes backward)]

def startSize : Nat := forkSize 2 + 2 * stateSize + rangeSize

/-- The whole automaton; only the forward one keeps where the match begins and ends. -/
def wholeSize (backward : Bool) (pattern : Pattern) : Nat :=
  startSize + (if backward then 0 else 2 * stateSize) +
    choiceSize backward pattern (pattern.sizes backward) + stateSize

def sizeLimit : Nat := 10 * 1024 * 1024

/-- Whether a boundary of words of all letters occurs, which no automaton can tell. -/
def needsLetters : Pattern → Bool
  | here (.word _ ascii) => !ascii
  | both first second => first.needsLetters || second.needsLetters
  | either left right => left.needsLetters || right.needsLetters
  | repeated pattern _ _ => pattern.needsLetters
  | group pattern => pattern.needsLetters
  | _ => false

end Thermowire.Pattern
