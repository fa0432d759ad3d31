import Thermowire.Digits

/-!
The sensor's temperature register: two bytes that hold a signed count of sixteenths of a degree
Celsius, its rated range, its order and its texts.
-/
namespace Thermowire

/-- A temperature as the register counts it, in sixteenths of a degree. -/
structure Temperature where
  raw : Int16
  deriving DecidableEq, Repr

namespace Temperature

instance : Ord Temperature := ⟨fun a b => compare a.raw b.raw⟩
instance : LT Temperature := ⟨fun a b => a.raw < b.raw⟩
instance : LE Temperature := ⟨fun a b => a.raw ≤ b.raw⟩
instance (a b : Temperature) : Decidable (a < b) := inferInstanceAs (Decidable (a.raw < b.raw))
instance (a b : Temperature) : Decidable (a ≤ b) := inferInstanceAs (Decidable (a.raw ≤ b.raw))
instance : Max Temperature := maxOfLe
instance : Min Temperature := minOfLe

def lowest : Temperature := ⟨-880⟩

def highest : Temperature := ⟨2000⟩

def clamp (t : Temperature) : Temperature :=
  if t < lowest then lowest else if highest < t then highest else t

def sixteenths (t : Temperature) : Nat := t.raw.toInt.natAbs

def hundredths (t : Temperature) : Int := (t.raw.toInt * 100).tdiv 16

def sign (count : Int) : Text := if count < 0 then ['-'] else []

/-- Degrees with two places. The sign is that of what is left when the rest is cut off. -/
def text (t : Temperature) : String := String.ofList (sign t.hundredths ++ fixedPoint 2 t.hundredths.natAbs)

def exactText (t : Temperature) : String := String.ofList (sign t.raw.toInt ++ fixedPoint 4 (t.sixteenths * 625))

def codeText (t : Temperature) : String :=
  String.ofList ('0' :: 'x' :: digits 16 4 t.raw.toUInt16.toNat)

end Temperature

structure Scratchpad where
  low : UInt8
  high : UInt8
  deriving DecidableEq, Repr

namespace Scratchpad

def word (pad : Scratchpad) : UInt16 := (pad.high.toUInt16 <<< 8) ||| pad.low.toUInt16

def ofWord (word : UInt16) : Scratchpad := ⟨word.toUInt8, (word >>> 8).toUInt8⟩

/-- The register code: both bytes, high before low, as a signed number. -/
def raw (pad : Scratchpad) : Int16 := pad.word.toInt16

def ofRaw (raw : Int16) : Scratchpad := ofWord raw.toUInt16

theorem toNat_word (pad : Scratchpad) : pad.word.toNat = 256 * pad.high.toNat + pad.low.toNat := by
  have high := pad.high.toNat_lt
  have low := pad.low.toNat_lt
  have shifted : (pad.high.toUInt16 <<< 8).toNat = 2 ^ 8 * pad.high.toNat := by
    simp [Nat.shiftLeft_eq]
    omega
  rw [word, UInt16.toNat_or, shifted, UInt8.toNat_toUInt16, ← Nat.two_pow_add_eq_or_of_lt low]

@[simp] theorem word_ofWord (code : UInt16) : (ofWord code).word = code := by
  apply UInt16.toNat_inj.mp
  have bound := code.toNat_lt
  rw [toNat_word]
  simp [ofWord, Nat.shiftRight_eq_div_pow]
  omega

@[simp] theorem ofWord_word (pad : Scratchpad) : ofWord pad.word = pad := by
  obtain ⟨low, high⟩ := pad
  have lowBound := low.toNat_lt
  have highBound := high.toNat_lt
  simp only [ofWord, mk.injEq, ← UInt8.toNat_inj, UInt16.toNat_toUInt8, UInt16.toNat_shiftRight,
    toNat_word]
  constructor
  · omega
  · simp [Nat.shiftRight_eq_div_pow]
    omega

@[simp] theorem raw_ofRaw (code : Int16) : (ofRaw code).raw = code := by simp [raw, ofRaw]

@[simp] theorem ofRaw_raw (pad : Scratchpad) : ofRaw pad.raw = pad := by simp [raw, ofRaw]

def text (pad : Scratchpad) : String :=
  "Scratchpad \x7b low: " ++ toString pad.low ++ ", high: " ++ toString pad.high ++ " \x7d"

end Scratchpad

structure OutOfRange where
  raw : Int16
  deriving DecidableEq, Repr

def OutOfRange.text (error : OutOfRange) : String :=
  "OutOfRange \x7b raw: " ++ toString error.raw ++ " \x7d"

def Scratchpad.decode (pad : Scratchpad) : Except OutOfRange Temperature :=
  let reading : Temperature := ⟨pad.raw⟩
  if reading < .lowest ∨ .highest < reading then .error ⟨pad.raw⟩ else .ok reading

theorem Scratchpad.decode_eq (pad : Scratchpad) : pad.decode =
    if -880 ≤ pad.raw.toInt ∧ pad.raw.toInt ≤ 2000 then .ok ⟨pad.raw⟩ else .error ⟨pad.raw⟩ := by
  have below : (⟨pad.raw⟩ : Temperature) < .lowest ↔ pad.raw.toInt < -880 := Int16.lt_iff_toInt_lt
  have above : .highest < (⟨pad.raw⟩ : Temperature) ↔ 2000 < pad.raw.toInt := Int16.lt_iff_toInt_lt
  unfold decode
  dsimp only
  split
  · next outside =>
    rw [below, above] at outside
    exact (if_neg (by omega)).symm
  · next inside =>
    rw [below, above] at inside
    exact (if_pos (by omega)).symm

theorem Scratchpad.raw_of_decode {pad : Scratchpad} {reading : Temperature}
    (decoded : pad.decode = .ok reading) : reading.raw = pad.raw := by
  unfold decode at decoded
  dsimp only at decoded
  split at decoded
  · cases decoded
  · cases decoded
    rfl

end Thermowire
