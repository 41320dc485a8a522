import AsterYggdrasil.Text.Slices

/-!
# Bytes in hexadecimal digits

A byte is printed as two lower-case digits.  It is read by the integer parser of
the standard library, which takes digits of either case, any number of them as
long as the value fits, and **a plus sign before them**: two characters are read
if they are two digits, or a plus and a digit (`readByte_pair`).
-/

namespace Text

/-- `char::to_digit(16)`. -/
def hexDigit? (c : Char) : Option Nat :=
  if c.isDigit then some (c.toNat - 48)
  else if 'a' ≤ c ∧ c ≤ 'f' then some (c.toNat - 87)
  else if 'A' ≤ c ∧ c ≤ 'F' then some (c.toNat - 55)
  else none

/-- The digits of a byte, from left to right; `none` at any other character and
when the value no longer fits. -/
def readDigits : Nat → List Char → Option Nat
  | value, [] => some value
  | value, c :: cs =>
      match hexDigit? c with
      | none => none
      | some d => if value * 16 + d < 256 then readDigits (value * 16 + d) cs else none

/-- `u8::from_str_radix(text, 16)`. -/
def readByte (text : List Char) : Option UInt8 :=
  match text with
  | [] => none
  | ['+'] => none
  | ['-'] => none
  | '+' :: digits => (readDigits 0 digits).map UInt8.ofNat
  | digits => (readDigits 0 digits).map UInt8.ofNat

/-- `format!("{byte:02x}")`. -/
def printByte (b : UInt8) : List Char :=
  [Nat.digitChar (b.toNat / 16), Nat.digitChar (b.toNat % 16)]

/-- The byte with the two digits `c` and `d`. -/
def digitPair (c d : Char) : UInt8 :=
  UInt8.ofNat ((hexDigit? c).getD 0 * 16 + (hexDigit? d).getD 0)

/-! ## Digits -/

/-- One of the sixteen digits, of either case. -/
def IsHex (c : Char) : Prop := (hexDigit? c).isSome

instance (c : Char) : Decidable (IsHex c) := inferInstanceAs (Decidable (_ = true))

theorem hexDigit?_lt {c : Char} {d : Nat} (h : hexDigit? c = some d) : d < 16 := by
  unfold hexDigit? at h
  split_ifs at h with hdigit hlower hupper
  · have hle : c.toNat ≤ 57 := by
      simp only [Char.isDigit, Bool.and_eq_true, decide_eq_true_eq, UInt32.le_iff_toNat_le] at hdigit
      exact hdigit.2
    cases h
    omega
  · have hle : c.toNat ≤ 102 := UInt32.le_iff_toNat_le.mp hlower.2
    cases h
    omega
  · have hle : c.toNat ≤ 70 := UInt32.le_iff_toNat_le.mp hupper.2
    cases h
    omega

theorem IsHex.range {c : Char} (h : IsHex c) : 48 ≤ c.toNat ∧ c.toNat < 128 := by
  unfold IsHex hexDigit? at h
  split_ifs at h with hdigit hlower hupper
  · simp only [Char.isDigit, Bool.and_eq_true, decide_eq_true_eq, ge_iff_le,
      UInt32.le_iff_toNat_le] at hdigit
    have hlow : 48 ≤ c.toNat := hdigit.1
    have hhigh : c.toNat ≤ 57 := hdigit.2
    omega
  · have hlow : 97 ≤ c.toNat := UInt32.le_iff_toNat_le.mp hlower.1
    have hhigh : c.toNat ≤ 102 := UInt32.le_iff_toNat_le.mp hlower.2
    omega
  · have hlow : 65 ≤ c.toNat := UInt32.le_iff_toNat_le.mp hupper.1
    have hhigh : c.toNat ≤ 70 := UInt32.le_iff_toNat_le.mp hupper.2
    omega
  · cases h

theorem IsHex.lt {c : Char} (h : IsHex c) : c.toNat < 128 := h.range.2

theorem IsHex.utf8Size {c : Char} (h : IsHex c) : c.utf8Size = 1 := utf8Size_ascii h.lt

theorem isHex_digitChar {n : Nat} (h : n < 16) :
    hexDigit? (Nat.digitChar n) = some n := by
  have hall : ∀ m ∈ List.range 16, hexDigit? (Nat.digitChar m) = some m := by decide
  exact hall n (List.mem_range.mpr h)

/-! ## Two characters -/

/-- What the parser takes for a byte of two characters. -/
def Readable (c d : Char) : Prop := (IsHex c ∨ c = '+') ∧ IsHex d

theorem Readable.utf8Size {c d : Char} (h : Readable c d) :
    c.utf8Size = 1 ∧ d.utf8Size = 1 := by
  obtain ⟨hc | rfl, hd⟩ := h
  · exact ⟨hc.utf8Size, hd.utf8Size⟩
  · exact ⟨rfl, hd.utf8Size⟩

theorem readDigits_two (c d : Char) :
    readDigits 0 [c, d] =
      (hexDigit? c).bind fun m => (hexDigit? d).map fun n => m * 16 + n := by
  cases hc : hexDigit? c with
  | none => simp [readDigits, hc]
  | some m =>
      have hm := hexDigit?_lt hc
      cases hd : hexDigit? d with
      | none => simp [readDigits, hc, hd]
      | some n =>
          have hn := hexDigit?_lt hd
          simp only [readDigits, hc, hd, Option.bind_some, Option.map_some, Nat.zero_mul,
            Nat.zero_add]
          rw [if_pos (by omega), if_pos (by omega)]

/-- **Two characters are read if they are two digits or a plus and a digit.** -/
theorem readByte_pair (c d : Char) :
    (Readable c d → readByte [c, d] = some (digitPair c d)) ∧
      (¬ Readable c d → readByte [c, d] = none) := by
  by_cases hplus : c = '+'
  · subst hplus
    have hread : readByte ['+', d] = (readDigits 0 [d]).map UInt8.ofNat := rfl
    have hzero : hexDigit? '+' = none := by decide
    rw [hread]
    cases hd : hexDigit? d with
    | none =>
        refine ⟨fun h => ?_, fun _ => by simp [readDigits, hd]⟩
        have hhex := h.2
        rw [IsHex, hd] at hhex
        cases hhex
    | some n =>
        have hn := hexDigit?_lt hd
        refine ⟨fun _ => ?_, fun h => absurd ⟨Or.inr rfl, by rw [IsHex, hd]; rfl⟩ h⟩
        simp only [readDigits, hd, digitPair, hzero, Option.getD_none, Option.getD_some,
          Nat.zero_mul, Nat.zero_add]
        rw [if_pos (by omega)]
        rfl
  · have hread : readByte [c, d] = (readDigits 0 [c, d]).map UInt8.ofNat := by
      unfold readByte
      split <;> simp_all
    rw [hread, readDigits_two]
    cases hc : hexDigit? c with
    | none =>
        refine ⟨fun h => ?_, fun _ => rfl⟩
        rcases h.1 with hhex | hhex
        · rw [IsHex, hc] at hhex
          cases hhex
        · exact absurd hhex hplus
    | some m =>
        cases hd : hexDigit? d with
        | none =>
            refine ⟨fun h => ?_, fun _ => rfl⟩
            have hhex := h.2
            rw [IsHex, hd] at hhex
            cases hhex
        | some n =>
            refine ⟨fun _ => ?_, fun h => absurd ⟨Or.inl (by rw [IsHex, hc]; rfl), ?_⟩ h⟩
            · simp [digitPair, hc, hd]
            · rw [IsHex, hd]
              rfl

/-- A character of two bytes is no digit. -/
theorem readByte_wide {c : Char} (h : c.utf8Size = 2) : readByte [c] = none := by
  have hhex : hexDigit? c = none := by
    by_contra hsome
    have hone := IsHex.utf8Size (Option.isSome_iff_ne_none.mpr hsome)
    omega
  have hplus : c ≠ '+' := by
    rintro rfl
    cases h
  have hminus : c ≠ '-' := by
    rintro rfl
    cases h
  unfold readByte
  split <;> simp_all [readDigits]

/-- **A printed byte is read back.** -/
theorem readable_printByte (b : UInt8) :
    IsHex (Nat.digitChar (b.toNat / 16)) ∧ IsHex (Nat.digitChar (b.toNat % 16)) ∧
      digitPair (Nat.digitChar (b.toNat / 16)) (Nat.digitChar (b.toNat % 16)) = b := by
  have hb := b.toNat_lt
  have hhigh := isHex_digitChar (n := b.toNat / 16) (by omega)
  have hlow := isHex_digitChar (n := b.toNat % 16) (by omega)
  refine ⟨by rw [IsHex, hhigh]; rfl, by rw [IsHex, hlow]; rfl, ?_⟩
  rw [digitPair, hhigh, hlow, Option.getD_some, Option.getD_some, Nat.div_add_mod']
  exact UInt8.ofNat_toNat

end Text
