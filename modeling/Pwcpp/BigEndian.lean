import Mathlib.Algebra.Order.Ring.Nat

namespace BigEndian

/-!
# Numbers as words of bytes

`encode width number` is the word of `width` bytes that spells a number with
its most significant byte first, `decode` the number that a word spells.  The
two are inverse for numbers that fit.
-/

/-- The bytes of a number, most significant first. -/
def encode : Nat → Nat → List UInt8
  | 0, _ =>
      []
  | width + 1, number =>
      (number / 256 ^ width).toUInt8 :: encode width number

/-- The number that the bytes spell. -/
def decode : List UInt8 → Nat
  | [] =>
      0
  | byte :: rest =>
      byte.toNat * 256 ^ rest.length + decode rest

/-- Turn the bytes of a number around. -/
def swap (width number : Nat) : Nat :=
  decode (encode width number).reverse

@[simp] theorem length_encode (width number : Nat) :
    (encode width number).length = width := by
  induction width with
  | zero =>
      rfl
  | succ width inductionHypothesis =>
      rw [encode, List.length_cons, inductionHypothesis]

/-- A word spells a number of its width. -/
theorem decode_lt (bytes : List UInt8) :
    decode bytes < 256 ^ bytes.length := by
  induction bytes with
  | nil =>
      exact Nat.one_pos
  | cons byte rest inductionHypothesis =>
      have isByte : byte.toNat + 1 ≤ 256 := byte.toNat_lt
      calc
        decode (byte :: rest)
            < byte.toNat * 256 ^ rest.length + 256 ^ rest.length :=
          Nat.add_lt_add_left inductionHypothesis _
        _ = (byte.toNat + 1) * 256 ^ rest.length :=
          (Nat.succ_mul _ _).symm
        _ ≤ 256 * 256 ^ rest.length :=
          Nat.mul_le_mul_right _ isByte
        _ = 256 ^ (byte :: rest).length := by
          rw [List.length_cons, Nat.pow_succ']

/-- Decoding gives back what fits into the word. -/
theorem decode_encode_eq_mod (width number : Nat) :
    decode (encode width number) = number % 256 ^ width := by
  induction width with
  | zero =>
      rw [Nat.pow_zero, Nat.mod_one]
      rfl
  | succ width inductionHypothesis =>
      have firstByte :
          (number / 256 ^ width).toUInt8.toNat =
            number / 256 ^ width % 256 :=
        UInt8.toNat_ofNat
      rw [encode, decode, inductionHypothesis, length_encode, firstByte,
        Nat.mod_pow_succ, Nat.mul_comm, Nat.add_comm]

/-- A number that fits comes back. -/
theorem decode_encode
    {width number : Nat}
    (fits : number < 256 ^ width) :
    decode (encode width number) = number := by
  rw [decode_encode_eq_mod, Nat.mod_eq_of_lt fits]

/-- Bytes above a word do not change it. -/
theorem encode_add_mul (width extra number : Nat) :
    encode width (extra * 256 ^ width + number) = encode width number := by
  induction width generalizing extra with
  | zero =>
      rfl
  | succ width inductionHypothesis =>
      have shifted :
          extra * 256 ^ (width + 1) + number =
            extra * 256 * 256 ^ width + number := by
        rw [Nat.pow_succ', Nat.mul_assoc]
      have quotient :
          (extra * 256 * 256 ^ width + number) / 256 ^ width =
            number / 256 ^ width + extra * 256 := by
        rw [Nat.add_comm]
        exact Nat.add_mul_div_right _ _ (Nat.pow_pos (by decide))
      have sameByte :
          ((extra * 256 * 256 ^ width + number) / 256 ^ width).toUInt8 =
            (number / 256 ^ width).toUInt8 := by
        rw [quotient]
        apply UInt8.toNat_inj.mp
        exact UInt8.toNat_ofNat.trans
          ((Nat.add_mul_mod_self_right _ _ _).trans
            UInt8.toNat_ofNat.symm)
      rw [shifted, encode, encode, inductionHypothesis, sameByte]

/-- Encoding gives back the word. -/
theorem encode_decode (bytes : List UInt8) :
    encode bytes.length (decode bytes) = bytes := by
  induction bytes with
  | nil =>
      rfl
  | cons byte rest inductionHypothesis =>
      have firstByte :
          (byte.toNat * 256 ^ rest.length + decode rest) /
              256 ^ rest.length =
            byte.toNat := by
        rw [Nat.mul_comm, Nat.mul_add_div (Nat.pow_pos (by decide)),
          Nat.div_eq_of_lt (decode_lt rest), Nat.add_zero]
      rw [List.length_cons, encode, decode, firstByte, encode_add_mul,
        inductionHypothesis]
      exact congrArg (· :: rest) UInt8.ofNat_toNat

/-- Turning the bytes of a word around twice gives the number it spells. -/
theorem swap_decode_reverse (bytes : List UInt8) :
    swap bytes.length (decode bytes.reverse) = decode bytes := by
  have word := encode_decode bytes.reverse
  rw [List.length_reverse] at word
  rw [swap, word, List.reverse_reverse]

/-- A number turned around still fits. -/
theorem swap_lt (width number : Nat) :
    swap width number < 256 ^ width := by
  have bound := decode_lt (encode width number).reverse
  rw [List.length_reverse, length_encode] at bound
  exact bound

/-- The bytes of a number turned around are its bytes in reverse. -/
theorem encode_swap (width number : Nat) :
    encode width (swap width number) = (encode width number).reverse := by
  have word := encode_decode (encode width number).reverse
  rw [List.length_reverse, length_encode] at word
  exact word

end BigEndian
