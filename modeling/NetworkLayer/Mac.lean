import NetworkLayer.Bytes
import NetworkLayer.Text.Numeral

/-! Link-layer addresses of six octets and their text. -/

namespace NetworkLayer

/-- A link-layer address of 48 bits. -/
structure Mac where
  number : Nat
  bound : number < 0x1000000000000
deriving DecidableEq

namespace Mac

/-- The address with the low 48 bits of a number. -/
def ofNat (number : Nat) : Mac :=
  ⟨number % 0x1000000000000, Nat.mod_lt _ (by decide)⟩

instance : Inhabited Mac := ⟨ofNat 0⟩

/-- The six octets, in transmission order. -/
def octets (mac : Mac) : Bytes :=
  Bytes.ofValue 6 mac.number

/-- The address whose octets stand at `offset` of a byte string that is long enough. -/
def readAt (bytes : Bytes) (offset : Nat) : Mac :=
  ofNat (Bytes.value (Bytes.slice bytes offset 6))

/-- The address that every station accepts. -/
def broadcast : Mac := ofNat 0xFFFFFFFFFFFF

/-- The locally administered unicast address with the 32 low bits `id`. -/
def localUnicast (id : UInt32) : Mac :=
  ofNat (0x020000000000 + id.toNat)

/-- Whether the address names a group: the lowest bit of its first octet is set. -/
def isMulticast (mac : Mac) : Bool :=
  -- The first octet is the eight highest of the 48 bits.
  mac.number >>> 40 % 2 == 1

/-- Six groups of two lower-case hexadecimal digits, joined by colons. -/
def render (mac : Mac) : String :=
  ":".intercalate (mac.octets.map fun octet => Text.hex 2 octet.toNat)

/-- One octet of an address text: two characters that spell a hexadecimal number below 256. -/
def octet? (text : List Char) : Option UInt8 :=
  if text.length = 2 then (Text.unsigned? 16 256 text).map UInt8.ofNat else none

/-- Reads six octet texts joined by colons or hyphens. -/
def parse? (text : String) : Option Mac :=
  -- Both marks may occur in one text.
  let groups := text.toList.splitOnP fun c => c == ':' || c == '-'
  if groups.length = 6 then
    (groups.mapM octet?).map fun octets => ofNat (Bytes.value octets)
  else none

end Mac

end NetworkLayer
