/-!
# Machine words, byte strings and sizes

Registers and addresses are 64-bit words. Lengths, positions and cursors are
natural numbers in this development, so that arithmetic on them is exact; where
the machine would run out of word range, the bound `wordLimit` appears in the
definition that hits it. What memory grants is a parameter of whatever asks for it,
and `allocationLimit` is the bound that stands there when nothing else is said.
-/

namespace OpenFiles

/-- A string of bytes, as moved by reads and writes. -/
abbrev Bytes := List UInt8

/-- The number of 64-bit words; the first natural number that is not one. -/
def wordLimit : Nat := UInt64.size

/-- The size of a request that no memory grants: two to the power of 62. -/
def allocationLimit : Nat := 0x4000000000000000

/-- Descriptors are signed 32-bit numbers, and this is the first that is not one. -/
def descriptorLimit : Nat := 0x80000000

/-- The number whose base-256 digits are `bytes`, least significant first. -/
def littleEndian : Bytes → Nat
  | [] => 0
  | byte :: rest => byte.toNat + 256 * littleEndian rest

/-- The number that `bits` low bits of `value` stand for in two's complement. -/
def twosComplement (bits value : Nat) : Int :=
  (BitVec.ofNat bits value).toInt

/-- A 64-bit word read as a signed number. -/
def signedWord (word : UInt64) : Int :=
  twosComplement 64 word.toNat

@[simp] theorem littleEndian_nil : littleEndian [] = 0 := rfl

@[simp] theorem littleEndian_cons (byte : UInt8) (rest : Bytes) :
    littleEndian (byte :: rest) = byte.toNat + 256 * littleEndian rest := rfl

theorem toNat_lt_wordLimit (word : UInt64) : word.toNat < wordLimit :=
  word.toNat_lt_size

end OpenFiles
