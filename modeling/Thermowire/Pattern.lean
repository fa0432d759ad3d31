import Thermowire.CharSet

/-!
Patterns that a text matches if some part of it does. A pattern is run on many places of the text at
once: from the places where its match may begin it yields those where the match may end, so that a
match is found without a search.
-/
namespace Thermowire

inductive WordPlace where
  | edge
  | noEdge
  | start
  | finish
  | startHalf
  | finishHalf
  deriving DecidableEq, Repr

inductive Place where
  | start
  | finish
  | word (place : WordPlace) (ascii : Bool)
  deriving DecidableEq, Repr

def WordPlace.holds (before behind : Bool) : WordPlace → Bool
  | edge => before != behind
  | noEdge => before == behind
  | start => !before && behind
  | finish => before && !behind
  | startHalf => !before
  | finishHalf => !behind

/-- Whether a text meets the condition behind its first `index` characters. The words that are known
are those of ASCII. -/
def Place.holds (text : Text) (index : Nat) : Place → Bool
  | start => index = 0
  | finish => index = text.length
  | word place _ =>
    place.holds ((text.take index).getLast?.any CharSet.words.contains)
      (text[index]?.any CharSet.words.contains)

inductive Pattern where
  | empty
  | one (set : CharSet)
  | here (place : Place)
  | both (first second : Pattern)
  | either (left right : Pattern)
  | repeated (pattern : Pattern) (least : Nat) (most : Option Nat)
  | group (pattern : Pattern)
  deriving DecidableEq, Repr

namespace Pattern

abbrev Places := List Bool

def Places.all (text : Text) : Places := List.replicate (text.length + 1) true

def merge (places more : Places) : Places := List.zipWith (· || ·) places more

def step (text : Text) (set : CharSet) (places : Places) : Places :=
  false :: List.zipWith (fun c place => place && set.contains c) text places

def rounds (round : Places → Places) : Nat → Places → Places
  | 0, places => places
  | count + 1, places =>
    let next := round places
    if next = places then places else rounds round count next

def spread (round : Places → Places) (count : Nat) (places : Places) : Places :=
  rounds (fun places => merge places (round places)) count places

/-- The places where a match may end that begins at one of the given places. A round never leads
back, and so without a bound there are as many rounds as places. -/
def reach (text : Text) : Pattern → Places → Places
  | empty, places => places
  | one set, places => step text set places
  | here place, places =>
    List.zipWith (· && ·) places ((List.range (text.length + 1)).map (place.holds text))
  | both first second, places => second.reach text (first.reach text places)
  | either left right, places => merge (left.reach text places) (right.reach text places)
  | repeated pattern least most, places =>
    spread (pattern.reach text) ((most.map (· - least)).getD (text.length + 1))
      (rounds (pattern.reach text) least places)
  | group pattern, places => pattern.reach text places

def isMatch (pattern : Pattern) (text : Text) : Bool :=
  (pattern.reach text (Places.all text)).any id

def isBare : Pattern → Bool
  | empty => true
  | one _ => false
  | here _ => true
  | both first second => first.isBare && second.isBare
  | either left right => left.isBare && right.isBare
  | repeated pattern _ most => pattern.isBare && most.isSome
  | group pattern => pattern.isBare

def append : Pattern → Pattern → Pattern
  | empty, second => second
  | first, empty => first
  | both first middle, second => both first (append middle second)
  | first, second => both first second

/-- A pattern that takes no character need not be repeated. -/
def times (pattern : Pattern) (least : Nat) (most : Option Nat) : Pattern :=
  let (least, most) :=
    if pattern.isBare then (min least 1, some (min (most.getD 1) 1)) else (least, most)
  if most = some 0 then empty
  else if least = 1 ∧ most = some 1 then pattern
  else repeated pattern least most

def branches : Pattern → List Pattern
  | either left right => left.branches ++ right.branches
  | pattern => [pattern]

def set? : Pattern → Option CharSet
  | one set => some set
  | _ => none

def choice (patterns : List Pattern) : Pattern :=
  let patterns := patterns.flatMap branches
  match patterns.mapM set? with
  | some sets => one (sets.foldr .union .empty)
  | none =>
    match patterns.getLast? with
    | some last => patterns.dropLast.foldr either last
    | none => one .empty

end Pattern
end Thermowire
