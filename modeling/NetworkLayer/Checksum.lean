import NetworkLayer.Bytes

/-! The Internet checksum: the ones' complement sum of 16-bit words. -/

namespace NetworkLayer.Checksum

/-- The sum of the big-endian 16-bit words, added to `start`; an odd last byte is a high byte. -/
def wordSum (start : Nat) : Bytes → Nat
  | [] => start
  | [high] => start + high.toNat * 256
  | high :: low :: rest => wordSum (start + high.toNat * 256 + low.toNat) rest

/-- Adds the carries above 16 bits back in until none is left. -/
def fold (sum : Nat) : Nat :=
  if sum < 65536 then sum else fold (sum % 65536 + sum / 65536)
termination_by sum
decreasing_by omega

/-- The ones' complement sum, accumulated in 32 bits. -/
def onesSum (start : Nat) (bytes : Bytes) : Nat :=
  -- A sum that outgrows its accumulator loses the carries beyond it.
  fold (wordSum start bytes % 0x100000000)

/-- The complement of a 16-bit sum. -/
def complement (sum : Nat) : UInt16 :=
  UInt16.ofNat (65535 - sum)

/-- The checksum of a byte string on top of a partial sum such as a pseudo-header's. -/
def continued (start : Nat) (bytes : Bytes) : UInt16 :=
  complement (onesSum start bytes)

/-- The checksum of a byte string. -/
def ofBytes (bytes : Bytes) : UInt16 :=
  continued 0 bytes

/-- The byte string with its own checksum in the word at `offset`, which counts as zero. -/
def stamp (bytes : Bytes) (offset : Nat) : Bytes :=
  -- The sum is taken as if the word were zero, so an old checksum does not count.
  let blank := Bytes.patch bytes offset [0, 0]
  Bytes.patch blank offset (Bytes.ofWord (ofBytes blank))

/-- Whether a byte string that holds its checksum is intact. -/
def verifies (bytes : Bytes) : Bool :=
  ofBytes bytes == 0

end NetworkLayer.Checksum
