/-!
Bytes as bits in wire order: the least significant bit travels first. Packing and unpacking are
inverse on eight bits.
-/
namespace Thermowire

def bits (byte : UInt8) : List Bool := (List.range 8).map byte.toNat.testBit

def ofBits (wire : List Bool) : UInt8 :=
  wire.foldr (fun bit rest => 2 * rest + bit.toUInt8) 0

@[simp] theorem length_bits (byte : UInt8) : (bits byte).length = 8 := by simp [bits]

theorem forall_byte {P : UInt8 → Prop} (every : ∀ n : Fin 256, P (.ofNat n)) (byte : UInt8) :
    P byte := by
  simpa using every ⟨byte.toNat, byte.toNat_lt⟩

theorem ofBits_bits (byte : UInt8) : ofBits (bits byte) = byte := by
  revert byte
  apply forall_byte
  decide +kernel

theorem bits_ofBits {wire : List Bool} (eight : wire.length = 8) : bits (ofBits wire) = wire := by
  match wire, eight with
  | [a, b, c, d, e, f, g, h], _ => revert a b c d e f g h; decide +kernel

end Thermowire
