/-! Byte strings, read and written as big-endian fields at byte offsets. -/

namespace NetworkLayer

/-- A byte string. -/
abbrev Bytes := List UInt8

namespace Bytes

/-- The number that a byte string spells, most significant byte first. -/
def value (bytes : Bytes) : Nat :=
  bytes.foldl (fun sum byte => sum * 256 + byte.toNat) 0

/-- The low `width` bytes of a number, most significant byte first. -/
def ofValue : Nat → Nat → Bytes
  | 0, _ => []
  -- The last byte is the least significant one, so the shorter number goes in front.
  | width + 1, number => ofValue width (number / 256) ++ [UInt8.ofNat number]

/-- The `width` bytes that start at `offset`. -/
def slice (bytes : Bytes) (offset width : Nat) : Bytes :=
  (bytes.drop offset).take width

/-- The byte at `offset`. -/
def byteAt (bytes : Bytes) (offset : Nat) : UInt8 :=
  bytes.getD offset 0

/-- The 16-bit word whose first byte is at `offset`. -/
def wordAt (bytes : Bytes) (offset : Nat) : UInt16 :=
  UInt16.ofNat (value (slice bytes offset 2))

/-- The two bytes of a 16-bit word. -/
def ofWord (word : UInt16) : Bytes :=
  ofValue 2 word.toNat

/-- The byte string with `field` in the place of what stood at `offset`. -/
def patch (bytes : Bytes) (offset : Nat) (field : Bytes) : Bytes :=
  bytes.take offset ++ field ++ bytes.drop (offset + field.length)

/-- The byte string without the `width` bytes that start at `offset`. -/
def excise (bytes : Bytes) (offset width : Nat) : Bytes :=
  bytes.take offset ++ bytes.drop (offset + width)

/-- A byte string of `count` zeros. -/
def zeros (count : Nat) : Bytes :=
  List.replicate count 0

end Bytes

end NetworkLayer
