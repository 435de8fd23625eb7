import Mathlib.Data.List.Induction
import Mathlib.Tactic.Ring

/-! Unsigned numbers as byte strings of a fixed width, most significant byte first
(network order) or last (host order of the machines the program runs on), and
bounded reads from a byte string. -/
namespace Mnslp.Lib

abbrev Bytes := List UInt8

inductive ByteOrder
  | network | host
deriving DecidableEq, Repr

namespace Bytes

def ofNat : Nat → Nat → Bytes
  | 0, _ => []
  | width+1, value => ofNat width (value / 256) ++ [UInt8.ofNat value]

def toNat (bytes : Bytes) : Nat := bytes.foldl (fun acc byte => acc * 256 + byte.toNat) 0

@[simp] theorem length_ofNat (width value : Nat) : (ofNat width value).length = width := by
  induction width generalizing value with
  | zero => rfl
  | succ width ih => rw [ofNat,List.length_append,ih,List.length_singleton]

@[simp] theorem toNat_nil : toNat [] = 0 := rfl

theorem toNat_append_singleton (bytes : Bytes) (byte : UInt8) :
    toNat (bytes ++ [byte]) = toNat bytes * 256 + byte.toNat := by
  simp only [toNat,List.foldl_append,List.foldl_cons,List.foldl_nil]

theorem toNat_lt (bytes : Bytes) : toNat bytes < 256 ^ bytes.length := by
  induction bytes using List.reverseRecOn with
  | nil => decide
  | append_singleton bytes byte ih =>
    have small := byte.toNat_lt
    rw [toNat_append_singleton,List.length_append,List.length_singleton,Nat.pow_succ]
    omega

@[simp] theorem toNat_ofNat (width value : Nat) : toNat (ofNat width value) = value % 256 ^ width := by
  induction width generalizing value with
  | zero => simp [ofNat,Nat.mod_one]
  | succ width ih =>
    have byte : (UInt8.ofNat value).toNat = value % 256 := UInt8.toNat_ofNat'
    rw [ofNat,toNat_append_singleton,ih,byte,Nat.pow_succ,Nat.mul_comm (256 ^ width) 256,Nat.mod_mul]
    ring

theorem ofNat_toNat (bytes : Bytes) : ofNat bytes.length (toNat bytes) = bytes := by
  induction bytes using List.reverseRecOn with
  | nil => rfl
  | append_singleton bytes byte ih =>
    have small := byte.toNat_lt
    rw [List.length_append,List.length_singleton,ofNat,toNat_append_singleton]
    have quotient : (toNat bytes * 256 + byte.toNat) / 256 = toNat bytes := by omega
    have last : UInt8.ofNat (toNat bytes * 256 + byte.toNat) = byte := by
      apply UInt8.toNat_inj.mp
      rw [UInt8.toNat_ofNat']
      omega
    rw [quotient,ih,last]

/-- The bytes a value of `width` bytes takes in memory or on the wire. -/
def encode (order : ByteOrder) (width value : Nat) : Bytes :=
  match order with
  | .network => ofNat width value
  | .host => (ofNat width value).reverse

def decode (order : ByteOrder) (bytes : Bytes) : Nat :=
  match order with
  | .network => toNat bytes
  | .host => toNat bytes.reverse

@[simp] theorem length_encode (order : ByteOrder) (width value : Nat) :
    (encode order width value).length = width := by
  cases order <;> simp [encode]

@[simp] theorem decode_encode (order : ByteOrder) (width value : Nat) :
    decode order (encode order width value) = value % 256 ^ width := by
  cases order <;> simp [encode,decode]

theorem ofNat_mod (width value : Nat) : ofNat width (value % 256^width) = ofNat width value := by
  rw [← toNat_ofNat]
  have same := ofNat_toNat (ofNat width value)
  rwa [length_ofNat] at same

theorem encode_mod (order : ByteOrder) (width value : Nat) :
    encode order width (value % 256^width) = encode order width value := by
  unfold encode
  rw [ofNat_mod]

/-- The `count` bytes from `pos` on, if they are all there. -/
def slice (bytes : Bytes) (pos count : Nat) : Option Bytes :=
  if pos + count ≤ bytes.length then some ((bytes.drop pos).take count) else none

theorem slice_eq_some (bytes : Bytes) (pos count : Nat) (inside : pos + count ≤ bytes.length) :
    slice bytes pos count = some ((bytes.drop pos).take count) := if_pos inside

theorem length_of_slice {bytes part : Bytes} {pos count : Nat} (read : slice bytes pos count = some part) :
    part.length = count := by
  unfold slice at read
  split at read
  · cases read
    rw [List.length_take,List.length_drop]
    omega
  · cases read

theorem slice_append_left (before part after : Bytes) :
    slice (before ++ part ++ after) before.length part.length = some part := by
  rw [slice_eq_some _ _ _ (by simp),List.append_assoc,List.drop_left,List.take_left]

/-- The part is found in the bytes from the position on. -/
def Stands (part bytes : Bytes) (pos : Nat) : Prop := part <+: bytes.drop pos

theorem stands_append {first second bytes : Bytes} {pos : Nat} :
    Stands (first ++ second) bytes pos ↔ Stands first bytes pos ∧ Stands second bytes (pos + first.length) := by
  unfold Stands
  rw [← List.drop_drop]
  constructor
  · rintro ⟨rest,whole⟩
    rw [← whole,List.append_assoc,List.drop_left]
    exact ⟨List.prefix_append _ _,List.prefix_append _ _⟩
  · rintro ⟨⟨rest,whole⟩,found⟩
    rw [← whole,List.drop_left] at found
    rw [← whole]
    exact (List.prefix_append_right_inj first).mpr found

theorem Stands.slice {part bytes : Bytes} {pos : Nat} (stands : Stands part bytes pos) (some : part ≠ []) :
    pos + part.length ≤ bytes.length ∧ (bytes.drop pos).take part.length = part := by
  have length := stands.length_le
  have positive := List.length_pos_iff.mpr some
  rw [List.length_drop] at length
  exact ⟨by omega,(List.prefix_iff_eq_take.mp stands).symm⟩

theorem Stands.within {part bytes : Bytes} {pos : Nat} (stands : Stands part bytes pos) (some : part ≠ []) :
    pos + part.length ≤ bytes.length := by
  have covered := List.IsPrefix.length_le stands
  have long := List.length_pos_iff.mpr some
  rw [List.length_drop] at covered
  omega

theorem stands_self (part : Bytes) : Stands part part 0 := List.prefix_refl part

theorem Stands.take {part bytes : Bytes} {pos count : Nat} (stands : Stands part bytes pos) (inside : pos + part.length ≤ count) :
    Stands part (bytes.take count) pos := by
  unfold Stands at stands ⊢
  rw [List.drop_take,List.prefix_take_iff]
  exact ⟨stands,by omega⟩

end Bytes
end Mnslp.Lib
