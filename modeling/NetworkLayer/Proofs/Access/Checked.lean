import NetworkLayer.Address
import NetworkLayer.Mac
import NetworkLayer.Proofs.Bytes

/-!
Computations that stop at the first access that a program could not make: an index out of range,
bytes that do not fill their place, a difference below zero, a shift or a sum beyond the width. Next
to each access stands where it succeeds, and that it then yields what the plain access does.
-/

namespace NetworkLayer

/-- What stops a program. -/
inductive Fault
  /-- An index or a range lies outside of the bytes. -/
  | range
  /-- Bytes do not fill the place that they are copied to. -/
  | conversion
  /-- A difference lies below zero. -/
  | underflow
  /-- A shift is by all places or more, or a sum does not fit. -/
  | overflow
deriving DecidableEq, Repr

/-- A computation that a fault may stop. -/
abbrev Checked (α : Type) := Except Fault α

namespace Checked

variable {α β : Type}

/-- A computation without a fault goes on. -/
@[simp] theorem ok_bind (value : α) (next : α → Checked β) :
    ((Except.ok value : Checked α) >>= next) = next value := rfl

/-- A value is a computation without a fault. -/
@[simp] theorem pure_eq (value : α) : (pure value : Checked α) = .ok value := rfl

section Lists

variable {test : α → Checked Bool} {plain : α → Bool}
  (same : ∀ value, test value = .ok (plain value))
include same

/-- Without a fault, a search for any value that passes a test is the plain one. -/
theorem anyM_ok (values : List α) : values.anyM test = .ok (values.any plain) := by
  -- A test without faults is a pure one, and of those the library knows it.
  have pure_test : test = fun value => pure (plain value) := funext same
  rw [pure_test]
  exact List.anyM_pure

/-- Without a fault, a search for the first value that passes a test is the plain one. -/
theorem findM?_ok (values : List α) : values.findM? test = .ok (values.find? plain) := by
  have pure_test : test = fun value => pure (plain value) := funext same
  rw [pure_test]
  exact List.findM?_pure plain values

end Lists

/-- Without a fault, a run over a list is the plain one. -/
theorem foldlM_ok {step : β → α → Checked β} {plain : β → α → β}
    (same : ∀ state value, step state value = .ok (plain state value)) (values : List α)
    (state : β) : values.foldlM step state = .ok (values.foldl plain state) := by
  have pure_step : step = fun state value => pure (plain state value) :=
    funext fun state => funext (same state)
  rw [pure_step]
  exact List.foldlM_pure

/-- The byte at an index. -/
def byte (bytes : Bytes) (offset : Nat) : Checked UInt8 :=
  match bytes[offset]? with
  | some byte => .ok byte
  | none => .error .range

/-- The word of the bytes at an index and behind it. -/
def word (bytes : Bytes) (offset : Nat) : Checked UInt16 := do
  let high ← byte bytes offset
  let low ← byte bytes (offset + 1)
  return UInt16.ofNat (Bytes.value [high, low])

/-- The bytes of a range. -/
def range (bytes : Bytes) (offset width : Nat) : Checked Bytes :=
  if offset + width ≤ bytes.length then .ok (Bytes.slice bytes offset width) else .error .range

/-- The bytes from an index on. -/
def rest (bytes : Bytes) (offset : Nat) : Checked Bytes :=
  if offset ≤ bytes.length then .ok (bytes.drop offset) else .error .range

/-- Bytes that are to fill a place of a given width. -/
def filling (width : Nat) (bytes : Bytes) : Checked Bytes :=
  if bytes.length = width then .ok bytes else .error .conversion

/-- The byte string with bytes copied over those of a range. -/
def write (bytes : Bytes) (offset width : Nat) (field : Bytes) : Checked Bytes :=
  if offset + width ≤ bytes.length then do
    return Bytes.patch bytes offset (← filling width field)
  else .error .range

/-- The byte string without the bytes of a range. -/
def remove (bytes : Bytes) (offset width : Nat) : Checked Bytes :=
  if offset + width ≤ bytes.length then .ok (Bytes.excise bytes offset width) else .error .range

/-- The difference of two numbers. -/
def difference (number less : Nat) : Checked Nat :=
  if less ≤ number then .ok (number - less) else .error .underflow

/-- A byte counted down by one. -/
def countDown (count : UInt8) : Checked UInt8 :=
  if count = 0 then .error .underflow else .ok (count - 1)

section Words

variable {places : Nat}

/-- A word shifted to the left. -/
def shiftLeft (word : BitVec places) (count : Nat) : Checked (BitVec places) :=
  if count < places then .ok (word <<< count) else .error .overflow

/-- A word shifted to the right. -/
def shiftRight (word : BitVec places) (count : Nat) : Checked (BitVec places) :=
  if count < places then .ok (word >>> count) else .error .overflow

/-- The sum of two words. -/
def sum (word more : BitVec places) : Checked (BitVec places) :=
  if word.uaddOverflow more then .error .overflow else .ok (word + more)

/-- The difference of two words. -/
def wordDifference (word less : BitVec places) : Checked (BitVec places) :=
  if word.usubOverflow less then .error .underflow else .ok (word - less)

end Words

/-- The address whose octets stand at an index. -/
def address {family : Family} (bytes : Bytes) (offset : Nat) : Checked (Address family) := do
  let octets ← filling (family.bits / 8) (← range bytes offset (family.bits / 8))
  return .ofNat (Bytes.value octets)

/-- The link-layer address whose octets stand at an index. -/
def mac (bytes : Bytes) (offset : Nat) : Checked Mac := do
  let octets ← filling 6 (← range bytes offset 6)
  return .ofNat (Bytes.value octets)

section Ok

variable {bytes : Bytes} {offset width : Nat}

/-- A byte within the byte string is there. -/
theorem byte_ok (inside : offset < bytes.length) :
    byte bytes offset = .ok (Bytes.byteAt bytes offset) := by
  have read : bytes[offset]? = some bytes[offset] := List.getElem?_eq_getElem inside
  rw [byte, Bytes.byteAt, List.getD_eq_getElem?_getD, read]
  rfl

/-- A byte outside of the byte string stops the program. -/
example : byte [0x45, 0x00] 2 = .error .range := rfl

/-- A word within the byte string is there. -/
theorem word_ok (inside : offset + 2 ≤ bytes.length) :
    word bytes offset = .ok (Bytes.wordAt bytes offset) := by
  -- Both bytes are there one by one, so they are what the slice holds.
  have pair : Bytes.slice bytes offset 2 =
      [Bytes.byteAt bytes offset, Bytes.byteAt bytes (offset + 1)] := by
    have first : offset < bytes.length := by omega
    have second : offset + 1 < bytes.length := by omega
    rw [Bytes.slice, List.drop_eq_getElem_cons first, List.drop_eq_getElem_cons second]
    simp only [List.take_succ_cons, List.take_zero, Bytes.byteAt, List.getD_eq_getElem?_getD,
      List.getElem?_eq_getElem first, List.getElem?_eq_getElem second, Option.getD_some]
  rw [word, byte_ok (by omega), ok_bind, byte_ok (by omega), ok_bind, Bytes.wordAt, pair]
  rfl

/-- A range within the byte string is there. -/
theorem range_ok (inside : offset + width ≤ bytes.length) :
    range bytes offset width = .ok (Bytes.slice bytes offset width) :=
  if_pos inside

/-- What follows an index within the byte string is there. -/
theorem rest_ok (inside : offset ≤ bytes.length) : rest bytes offset = .ok (bytes.drop offset) :=
  if_pos inside

/-- Bytes of the right number fill their place. -/
theorem filling_ok (full : bytes.length = width) : filling width bytes = .ok bytes :=
  if_pos full

/-- A field can be written within the byte string. -/
theorem write_ok {field : Bytes} (full : field.length = width)
    (inside : offset + width ≤ bytes.length) :
    write bytes offset width field = .ok (Bytes.patch bytes offset field) := by
  rw [write, if_pos inside, filling_ok full]
  rfl

/-- A range within the byte string can be removed. -/
theorem remove_ok (inside : offset + width ≤ bytes.length) :
    remove bytes offset width = .ok (Bytes.excise bytes offset width) :=
  if_pos inside

/-- An address within the byte string is there. -/
theorem address_ok {family : Family} (inside : offset + family.bits / 8 ≤ bytes.length) :
    (address bytes offset : Checked (Address family)) = .ok (Address.readAt bytes offset) := by
  rw [address, range_ok inside, ok_bind, filling_ok (Bytes.slice_length inside)]
  rfl

/-- A link-layer address within the byte string is there. -/
theorem mac_ok (inside : offset + 6 ≤ bytes.length) :
    mac bytes offset = .ok (Mac.readAt bytes offset) := by
  rw [mac, range_ok inside, ok_bind, filling_ok (Bytes.slice_length inside)]
  rfl

/-- A number can be reduced by one that is not larger. -/
theorem difference_ok {number less : Nat} (small : less ≤ number) :
    difference number less = .ok (number - less) :=
  if_pos small

/-- A count that is not zero can be counted down. -/
theorem countDown_ok {count : UInt8} (positive : count ≠ 0) :
    countDown count = .ok (count - 1) :=
  if_neg positive

section Words

variable {places : Nat} {word other : BitVec places}

/-- A word can be shifted to the left by fewer places than it has. -/
theorem shiftLeft_ok {count : Nat} (fewer : count < places) :
    shiftLeft word count = .ok (word <<< count) :=
  if_pos fewer

/-- A word can be shifted to the right by fewer places than it has. -/
theorem shiftRight_ok {count : Nat} (fewer : count < places) :
    shiftRight word count = .ok (word >>> count) :=
  if_pos fewer

/-- Words have a sum if that of their numbers fits. -/
theorem sum_ok (fits : word.toNat + other.toNat < 1 <<< places) :
    sum word other = .ok (word + other) := by
  rw [Nat.one_shiftLeft] at fits
  exact if_neg (by simpa [BitVec.uaddOverflow] using fits)

/-- A word can be reduced by one that is not larger. -/
theorem wordDifference_ok (small : other.toNat ≤ word.toNat) :
    wordDifference word other = .ok (word - other) :=
  if_neg (by simpa [BitVec.usubOverflow] using small)

end Words

end Ok

end Checked

end NetworkLayer
