import Thermowire.Text

/-!
Numbers as digits: natural numbers padded with zeros to a width, fixed point text, and integers of 64
bits as they are read.
-/
namespace Thermowire

def digits (base width number : Nat) : Text :=
  let significant := Nat.toDigits base number
  List.replicate (width - significant.length) '0' ++ significant

/-- A number of units of the last place, written with that many places behind the point. -/
def fixedPoint (places units : Nat) : Text :=
  let unit := Nat.pow 10 places
  Nat.toDigits 10 (units / unit) ++ '.' :: digits 10 places (units % unit)

inductive NumberError where
  | empty
  | invalidDigit
  | tooLarge
  | tooSmall
  deriving DecidableEq, Repr

def NumberError.message : NumberError → String
  | empty => "cannot parse integer from empty string"
  | invalidDigit => "invalid digit found in string"
  | tooLarge => "number too large to fit in target type"
  | tooSmall => "number too small to fit in target type"

/-- Reads decimal digits behind those that made `value`; the first fault from the left counts. -/
def readDigits (bound : Nat) (overflow : NumberError) : Text → Nat → Except NumberError Nat
  | [], value => .ok value
  | digit :: rest, value =>
    if digit.isDigit then
      let next := 10 * value + (digit.toNat - '0'.toNat)
      if next ≤ bound then readDigits bound overflow rest next else .error overflow
    else .error .invalidDigit

def readInteger : Text → Except NumberError Int
  | [] => .error .empty
  | ['+'] => .error .invalidDigit
  | ['-'] => .error .invalidDigit
  | '+' :: digits => (readDigits (UInt64.size / 2 - 1) .tooLarge digits 0).map Int.ofNat
  | '-' :: digits => (readDigits (UInt64.size / 2) .tooSmall digits 0).map fun size => -size
  | digits => (readDigits (UInt64.size / 2 - 1) .tooLarge digits 0).map Int.ofNat

end Thermowire
