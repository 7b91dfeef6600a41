/-
# Base64 and back

A letter stands for six bits. Reading takes the letters of a group one by one and keeps the
bits that are not yet in a byte:

| letter | bits that end a byte | bits that are kept |
| --- | ---: | ---: |
| first | | 6 |
| second | 2 | 4 |
| third | 4 | 2 |
| fourth | 6 | 0 |

So a group of four letters gives its three bytes and leaves nothing behind, and a last group of
two or three letters is closed by its padding (`Text.Base64.decodeFrom_encode`). Every byte string
is read from its written form again (`Text.Base64.decode_encode`).
-/

import BareMetal.Text.Base64
import Mathlib.Data.List.Basic

namespace BareMetal
namespace Text
namespace Base64

/-- A letter has the value that it was written for. -/
theorem value?_letter : ∀ n < 64, value? (letter n) = some n := by decide

/-- Beyond the values of six bits there is one letter, the last. -/
theorem letter_of_le {n : Nat} (great : 64 ≤ n) : letter n = '/' := by
  unfold letter
  rw [if_neg, if_neg, if_neg, if_neg] <;> omega

/-- A letter is an ASCII character, and no pad. -/
theorem letter_ascii (n : Nat) : (letter n).toNat < 0x80 ∧ letter n ≠ '=' := by
  rcases Nat.lt_or_ge n 64 with small | great
  · revert n
    decide
  · rw [letter_of_le great]
    decide

/-- A letter is no pad. -/
theorem letter_ne_pad (n : Nat) : letter n ≠ '=' := (letter_ascii n).2

section Steps

variable {n : Nat} (small : n < 64) (left bytes : Nat) (cs : List Char)
include small

/-- The first letter of a group is kept whole. -/
theorem decodeFrom_first :
    decodeFrom ⟨0, left, bytes, 0⟩ (letter n :: cs) = decodeFrom ⟨1, n, bytes, 0⟩ cs := by
  rw [decodeFrom, if_neg (letter_ne_pad n), value?_letter n small]
  rfl

/-- The second letter completes the first byte of its group, and four of its bits are kept. -/
theorem decodeFrom_second :
    decodeFrom ⟨1, left, bytes, 0⟩ (letter n :: cs) =
      (decodeFrom ⟨2, n % 16, bytes + 1, 0⟩ cs).map (UInt8.ofNat (left * 4 + n / 16) :: ·) := by
  rw [decodeFrom, if_neg (letter_ne_pad n), value?_letter n small]
  rfl

/-- The third letter completes the second byte of its group, and two of its bits are kept. -/
theorem decodeFrom_third :
    decodeFrom ⟨2, left, bytes, 0⟩ (letter n :: cs) =
      (decodeFrom ⟨3, n % 4, bytes + 1, 0⟩ cs).map (UInt8.ofNat (left * 16 + n / 4) :: ·) := by
  rw [decodeFrom, if_neg (letter_ne_pad n), value?_letter n small]
  rfl

/-- The fourth letter completes the third byte of its group, and none of its bits is kept. -/
theorem decodeFrom_fourth :
    decodeFrom ⟨3, left, bytes, 0⟩ (letter n :: cs) =
      (decodeFrom ⟨0, 0, bytes + 1, 0⟩ cs).map (UInt8.ofNat (left * 64 + n) :: ·) := by
  rw [decodeFrom, if_neg (letter_ne_pad n), value?_letter n small]
  rfl

end Steps

/-- One pad closes a group of three letters. -/
theorem decodeFrom_pad (left bytes : Nat) : decodeFrom ⟨3, left, bytes, 0⟩ ['='] = .ok [] := rfl

/-- Two pads close a group of two. -/
theorem decodeFrom_pads (left bytes : Nat) :
    decodeFrom ⟨2, left, bytes, 0⟩ ['=', '='] = .ok [] := rfl

/-- A number of bits that is the value of a byte is that byte. -/
theorem ofNat_eq {b : UInt8} {n : Nat} (h : n = b.toNat) : UInt8.ofNat n = b := by
  rw [h, UInt8.ofNat_toNat]

/-- The written form is read from a state in which no group has been begun. The induction is on the
groups; how many bytes have been read before counts only for the wording of a fault. -/
theorem decodeFrom_encode (bs : List UInt8) (bytes : Nat) :
    decodeFrom ⟨0, 0, bytes, 0⟩ (encode bs) = .ok bs := by
  fun_induction encode bs generalizing bytes with
  | case1 => rfl
  | case2 a n =>
    have ha := a.toNat_lt
    have first : UInt8.ofNat (n / 64 * 4 + n % 64 / 16) = a := ofNat_eq (by omega)
    rw [decodeFrom_first (by omega), decodeFrom_second (by omega), decodeFrom_pads, first]
    rfl
  | case3 a b n =>
    have ha := a.toNat_lt
    have hb := b.toNat_lt
    have first : UInt8.ofNat (n / 4096 * 4 + n / 64 % 64 / 16) = a := ofNat_eq (by omega)
    have second : UInt8.ofNat (n / 64 % 64 % 16 * 16 + n % 64 / 4) = b := ofNat_eq (by omega)
    rw [decodeFrom_first (by omega), decodeFrom_second (by omega), decodeFrom_third (by omega),
      decodeFrom_pad, first, second]
    rfl
  | case4 a b c rest n ih =>
    have ha := a.toNat_lt
    have hb := b.toNat_lt
    have hc := c.toNat_lt
    have first : UInt8.ofNat (n / 262144 * 4 + n / 4096 % 64 / 16) = a := ofNat_eq (by omega)
    have second : UInt8.ofNat (n / 4096 % 64 % 16 * 16 + n / 64 % 64 / 4) = b :=
      ofNat_eq (by omega)
    have third : UInt8.ofNat (n / 64 % 64 % 4 * 64 + n % 64) = c := ofNat_eq (by omega)
    rw [decodeFrom_first (by omega), decodeFrom_second (by omega), decodeFrom_third (by omega),
      decodeFrom_fourth (by omega), ih, first, second, third]
    rfl

/-- The written form has only ASCII characters. -/
theorem encode_ascii (bs : List UInt8) : ∀ c ∈ encode bs, c.toNat < 0x80 := by
  have letters (n : Nat) : (letter n).toNat < 0x80 := (letter_ascii n).1
  have pad : '='.toNat < 0x80 := by decide
  fun_induction encode bs with
  | case1 => nofun
  | case2 a n => simp only [List.forall_mem_cons, letters, pad, true_and]; nofun
  | case3 a b n => simp only [List.forall_mem_cons, letters, pad, true_and]; nofun
  | case4 a b c rest n ih => simpa only [List.forall_mem_cons, letters, true_and] using ih

/-- The written form does not begin with a pad. -/
theorem head?_encode_ne (bs : List UInt8) : (encode bs).head? ≠ some '=' := by
  fun_cases encode bs with
  | case1 => nofun
  | case2 | case3 | case4 => exact fun h => letter_ne_pad _ (Option.some.inj h)

/-- **Reading undoes writing**, for byte strings of every length. -/
theorem decode_encode (bs : List UInt8) : decode (encode bs) = .ok bs := by
  have ascii : ¬ (encode bs).any (0x80 ≤ ·.toNat) := by
    rw [List.any_eq_true]
    rintro ⟨c, hc, high⟩
    exact Nat.not_le_of_lt (encode_ascii bs c hc) (of_decide_eq_true high)
  rw [decode, if_neg ascii, if_neg (head?_encode_ne bs), decodeFrom_encode]

end Base64
end Text
end BareMetal
