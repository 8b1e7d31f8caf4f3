import Mathlib.Algebra.Order.Ring.Nat

namespace BitFields

/-!
# Words made of bit fields

Bits are counted from the least significant one, and `bits word high low` is
the number that bits `high` down to `low` of a word spell.  `pack` puts fields
side by side, the first one in the highest bits; every field of a packed word
is found again at its place.
-/

/-- The number in bits `high` down to `low`. -/
def bits (word high low : Nat) : Nat :=
  word / 2 ^ low % 2 ^ (high + 1 - low)

/-- The bits of a field are bits of the word. -/
theorem testBit_bits (word high low index : Nat) :
    (bits word high low).testBit index =
      (decide (low + index ≤ high) && word.testBit (low + index)) := by
  have inField : index < high + 1 - low ↔ low + index ≤ high := by
    omega
  simp only [bits, Nat.testBit_mod_two_pow, Nat.testBit_div_two_pow,
    inField, Nat.add_comm index low]

/-- A field is as small as its width says. -/
theorem bits_lt (word high low : Nat) :
    bits word high low < 2 ^ (high + 1 - low) :=
  Nat.mod_lt _ (Nat.two_pow_pos _)

/-- A field of a field is a field of the word. -/
theorem bits_bits
    {word high low innerHigh innerLow : Nat}
    (inside : low + innerHigh ≤ high) :
    bits (bits word high low) innerHigh innerLow =
      bits word (low + innerHigh) (low + innerLow) := by
  apply Nat.eq_of_testBit_eq
  intro index
  have sameField :
      low + innerLow + index ≤ low + innerHigh ↔
        innerLow + index ≤ innerHigh := by
    omega
  by_cases inField : innerLow + index ≤ innerHigh
  · have inOuter : low + (innerLow + index) ≤ high := by
      omega
    simp [testBit_bits, inField, inOuter, Nat.add_assoc]
  · simp [testBit_bits, sameField, inField]

/-- Shifting a field down and masking its width reads it. -/
theorem shiftRight_and_mask
    {word high low mask : Nat}
    (isMask : mask = 2 ^ (high + 1 - low) - 1) :
    (word >>> low) &&& mask = bits word high low := by
  rw [isMask, Nat.and_two_pow_sub_one_eq_mod, Nat.shiftRight_eq_div_pow]
  rfl

/-- A field to be packed: a number of its width. -/
structure Field where
  width : Nat
  value : BitVec width

/-- The width that fields have together. -/
def totalWidth : List Field → Nat
  | [] =>
      0
  | field :: rest =>
      field.width + totalWidth rest

/-- The word that the fields make up, the first one in the highest bits. -/
def pack : List Field → Nat
  | [] =>
      0
  | field :: rest =>
      field.value.toNat * 2 ^ totalWidth rest + pack rest

theorem totalWidth_append (first second : List Field) :
    totalWidth (first ++ second) = totalWidth first + totalWidth second := by
  induction first with
  | nil =>
      exact (Nat.zero_add _).symm
  | cons field rest inductionHypothesis =>
      simp only [List.cons_append, totalWidth, inductionHypothesis,
        Nat.add_assoc]

/-- The packed word is as small as the fields' width says. -/
theorem pack_lt (fields : List Field) :
    pack fields < 2 ^ totalWidth fields := by
  induction fields with
  | nil =>
      exact Nat.one_pos
  | cons field rest inductionHypothesis =>
      calc
        field.value.toNat * 2 ^ totalWidth rest + pack rest
            < field.value.toNat * 2 ^ totalWidth rest +
                2 ^ totalWidth rest :=
          Nat.add_lt_add_left inductionHypothesis _
        _ = (field.value.toNat + 1) * 2 ^ totalWidth rest := by
          rw [Nat.succ_mul]
        _ ≤ 2 ^ field.width * 2 ^ totalWidth rest :=
          Nat.mul_le_mul_right _ field.value.isLt
        _ = 2 ^ totalWidth (field :: rest) := by
          rw [totalWidth, Nat.pow_add]

/-- Bits below the first field are those of the other fields. -/
theorem bits_pack_cons
    {field : Field}
    {rest : List Field}
    {high low : Nat}
    (below : high < totalWidth rest) :
    bits (pack (field :: rest)) high low = bits (pack rest) high low := by
  apply Nat.eq_of_testBit_eq
  intro index
  rw [testBit_bits, testBit_bits]
  by_cases inField : low + index ≤ high
  · have inRest : low + index < totalWidth rest :=
      Nat.lt_of_le_of_lt inField below
    simp only [pack, Nat.mul_comm _ (2 ^ totalWidth rest),
      Nat.testBit_two_pow_mul_add _ (pack_lt rest), inRest, ↓reduceIte]
  · simp [inField]

/-- A packed field is found at its place. -/
theorem bits_pack
    (before : List Field)
    (field : Field)
    (after : List Field)
    {high : Nat}
    (top : high + 1 = field.width + totalWidth after) :
    bits (pack (before ++ field :: after)) high (totalWidth after) =
      field.value.toNat := by
  induction before with
  | nil =>
      have width : high + 1 - totalWidth after = field.width := by
        omega
      have shifted :
          (field.value.toNat * 2 ^ totalWidth after + pack after) /
              2 ^ totalWidth after =
            field.value.toNat := by
        rw [Nat.mul_comm, Nat.mul_add_div (Nat.two_pow_pos _),
          Nat.div_eq_of_lt (pack_lt after), Nat.add_zero]
      rw [bits, width, List.nil_append, pack, shifted,
        Nat.mod_eq_of_lt field.value.isLt]
  | cons first before inductionHypothesis =>
      have below : high < totalWidth (before ++ field :: after) := by
        rw [totalWidth_append, totalWidth]
        omega
      rw [List.cons_append, bits_pack_cons below, inductionHypothesis]

end BitFields
