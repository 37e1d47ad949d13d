import Transducer.Document

/-!
Checksums: the cyclic redundancy check of the Castagnoli polynomial, lowest bit first, over the
bytes of a text in UTF-8.
-/

namespace Transducer

namespace Checksum

/-- The Castagnoli polynomial with its bits reversed. -/
def polynomial : UInt32 := 0x82f63b78

/-- Moves the remainder on by one bit. -/
def shift (r : UInt32) : UInt32 :=
  if r &&& 1 = 1 then (r >>> 1) ^^^ polynomial else r >>> 1

/-- Moves the remainder on by one byte. -/
def step (r : UInt32) (b : UInt8) : UInt32 :=
  Nat.repeat shift 8 (r ^^^ b.toUInt32)

def ofBytes (bs : List UInt8) : UInt32 := bs.foldl step 0xffffffff ^^^ 0xffffffff

def hex (n : UInt32) : Word :=
  (List.range 8).reverse.map fun i => Nat.digitChar (n.toNat / Nat.pow 16 i % 16)

end Checksum

/-- The checksum of a text, as eight hexadecimal digits. -/
def Word.checksum (w : Word) : Word :=
  Checksum.hex (Checksum.ofBytes (w.flatMap String.utf8EncodeChar))

def Machine.checksum (m : Machine) : Word := m.toText.checksum

end Transducer
