import Mathlib.Algebra.Ring.Nat
import NetFlow.Wire.Field

/-! Base-256 digits and numbers determine one another, so a value of any kind and the
bytes of its width do as well. -/
namespace NetFlow
namespace BigEndian

theorem value_append (bs cs : List UInt8) :
    value (bs ++ cs) = value bs * 256 ^ cs.length + value cs := by
  have shift : ∀ (cs : List UInt8) (n : Nat),
      cs.foldl (fun n b => n * 256 + b.toNat) n = n * 256 ^ cs.length + value cs := by
    intro cs
    induction cs with
    | nil => intro n; simp [value]
    | cons c cs ih =>
      intro n
      simp only [value, List.foldl_cons, List.length_cons] at ih ⊢
      rw [ih, ih (0 * 256 + c.toNat), Nat.zero_mul, Nat.zero_add, Nat.add_mul, Nat.pow_succ',
        Nat.mul_assoc, Nat.add_assoc]
  rw [value, List.foldl_append, shift]
  rfl

theorem value_cons (b : UInt8) (bs : List UInt8) :
    value (b :: bs) = b.toNat * 256 ^ bs.length + value bs := by
  have h := value_append [b] bs
  simpa [value] using h

theorem value_lt (bs : List UInt8) : value bs < 256 ^ bs.length := by
  induction bs with
  | nil => simp [value]
  | cons b bs ih =>
    have hb : b.toNat ≤ 255 := Nat.le_of_lt_succ b.toNat_lt
    have hm := Nat.mul_le_mul_right (256 ^ bs.length) hb
    rw [value_cons, List.length_cons, Nat.pow_succ]
    omega

theorem value_encode (w n : Nat) : value (encode w n) = n % 256 ^ w := by
  induction w with
  | zero => simp [encode, value, Nat.mod_one]
  | succ w ih =>
    have hd : (UInt8.ofNat (n / 256 ^ w)).toNat = n / 256 ^ w % 256 := by simp
    change value (UInt8.ofNat (n / 256 ^ w) :: encode w n) = _
    rw [value_cons, encode_length, ih, hd, Nat.pow_succ, Nat.mod_mul]
    rw [Nat.mul_comm (256 ^ w), Nat.add_comm]

theorem encode_add_mul (w k n : Nat) : encode w (k * 256 ^ w + n) = encode w n := by
  induction w generalizing k with
  | zero => rfl
  | succ w ih =>
    have hp : 0 < 256 ^ w := Nat.pow_pos (by decide)
    have hk : k * 256 ^ (w + 1) + n = k * 256 * 256 ^ w + n := by
      rw [Nat.pow_succ, Nat.mul_assoc, Nat.mul_comm 256]
    have hd : UInt8.ofNat ((k * 256 * 256 ^ w + n) / 256 ^ w) = UInt8.ofNat (n / 256 ^ w) := by
      rw [Nat.mul_comm (k * 256), Nat.mul_add_div hp]
      apply UInt8.toNat.inj
      simp
    change UInt8.ofNat ((k * 256 ^ (w + 1) + n) / 256 ^ w) :: encode w (k * 256 ^ (w + 1) + n) =
      UInt8.ofNat (n / 256 ^ w) :: encode w n
    rw [hk, hd, ih]

theorem encode_value (bs : List UInt8) : encode bs.length (value bs) = bs := by
  induction bs with
  | nil => rfl
  | cons b bs ih =>
    have hp : 0 < 256 ^ bs.length := Nat.pow_pos (by decide)
    have hd : (b.toNat * 256 ^ bs.length + value bs) / 256 ^ bs.length = b.toNat := by
      rw [Nat.mul_comm, Nat.mul_add_div hp, Nat.div_eq_of_lt (value_lt bs), Nat.add_zero]
    change UInt8.ofNat (value (b :: bs) / 256 ^ bs.length) :: encode bs.length (value (b :: bs)) = _
    rw [value_cons, hd, encode_add_mul, ih, UInt8.ofNat_toNat]

theorem value_encode_of_lt {w n : Nat} (h : n < 256 ^ w) : value (encode w n) = n := by
  rw [value_encode, Nat.mod_eq_of_lt h]

end BigEndian

namespace Kind
open BigEndian

theorem decode_encode (k : Kind) (x : k.Carrier) : k.decode (k.encode x) = x := by
  cases k with
  | u8 =>
    change UInt8.ofNat (value (BigEndian.encode 1 x.toNat)) = x
    rw [value_encode_of_lt x.toNat_lt, UInt8.ofNat_toNat]
  | u16 =>
    change UInt16.ofNat (value (BigEndian.encode 2 x.toNat)) = x
    rw [value_encode_of_lt x.toNat_lt, UInt16.ofNat_toNat]
  | u32 =>
    change UInt32.ofNat (value (BigEndian.encode 4 x.toNat)) = x
    rw [value_encode_of_lt x.toNat_lt, UInt32.ofNat_toNat]
  | addr => rfl

theorem encode_decode (k : Kind) {bs : List UInt8} (h : bs.length = k.width) :
    k.encode (k.decode bs) = bs := by
  have hv := value_lt bs
  have he := encode_value bs
  rw [h] at hv he
  cases k with
  | u8 =>
    change BigEndian.encode 1 (UInt8.ofNat (value bs)).toNat = bs
    rw [UInt8.toNat_ofNat_of_lt' hv]
    exact he
  | u16 =>
    change BigEndian.encode 2 (UInt16.ofNat (value bs)).toNat = bs
    rw [UInt16.toNat_ofNat_of_lt' hv]
    exact he
  | u32 =>
    change BigEndian.encode 4 (UInt32.ofNat (value bs)).toNat = bs
    rw [UInt32.toNat_ofNat_of_lt' hv]
    exact he
  | addr =>
    match bs, h with
    | [a, b, c, d], _ => rfl

end Kind
end NetFlow
