import BootCode.Instruction
/-!
# Decimal numerals, said without the reader

`Numeral.Spells v n` is the grammar of signed decimal numerals: an optional sign, `+` or `-`,
then one or more ASCII digits, leading zeros allowed. The reader accepts a text exactly when it
spells a number within its bounds, and then gives that number (`readSigned_eq_ok_iff`); for the
32-bit range this is `readInt32_eq_ok_iff`. The written form of an integer, with its explicit
sign, spells it (`spells_signed`), so reading an argument back after writing it is the identity.
-/

namespace BootCode

theorem map_eq_ok_iff {ε α β : Type} {f : α → β} {x : Except ε α} {b : β} :
    x.map f = .ok b ↔ ∃ a, x = .ok a ∧ f a = b := by
  cases x <;> simp [Except.map]

namespace Numeral

/-- `v` spells `n`: one or more ASCII digits with the value `n`, the same after a `+`, or
digits after a `-` with the value `-n`. -/
inductive Spells : List Char → Int → Prop
  | unsigned {ds : List Char} : ds ≠ [] → (∀ c ∈ ds, c.isDigit) →
      Spells ds (Nat.ofDigitChars 10 ds 0)
  | plus {ds : List Char} : ds ≠ [] → (∀ c ∈ ds, c.isDigit) →
      Spells ('+' :: ds) (Nat.ofDigitChars 10 ds 0)
  | minus {ds : List Char} : ds ≠ [] → (∀ c ∈ ds, c.isDigit) →
      Spells ('-' :: ds) (-(Nat.ofDigitChars 10 ds 0 : Int))

theorem isDigit_iff {c : Char} : c.isDigit = true ↔ '0' ≤ c ∧ c ≤ '9' := by
  simp [Char.isDigit, Char.le_def]

/-- Reading digits onto a value never lowers it. -/
theorem le_ofDigitChars (ds : List Char) (acc : Nat) : acc ≤ Nat.ofDigitChars 10 ds acc := by
  rw [Nat.ofDigitChars_eq_ofDigitChars_zero]
  have : 1 ≤ 10 ^ ds.length := Nat.one_le_pow _ _ (by decide)
  calc acc = 1 * acc := (Nat.one_mul acc).symm
    _ ≤ 10 ^ ds.length * acc := Nat.mul_le_mul_right acc this
    _ ≤ _ := Nat.le_add_right _ _

-- ---------------------------------------------------------------------------
-- Digits and magnitudes
-- ---------------------------------------------------------------------------

/-- From a value within the limit, the digit loop gives a value exactly when every character
is a digit and the whole value stays within the limit; a value over the limit at some digit
stays over it, since the value only grows. -/
theorem digits_eq_some_some_iff {limit acc n : Nat} {cs : List Char} (hacc : acc ≤ limit) :
    digits limit acc cs = some (some n) ↔
      (∀ c ∈ cs, c.isDigit) ∧ n = Nat.ofDigitChars 10 cs acc ∧ n ≤ limit := by
  induction cs generalizing acc with
  | nil =>
    simp only [digits, Option.some.injEq, List.not_mem_nil, false_implies, implies_true,
      Nat.ofDigitChars_nil, true_and]
    constructor
    · rintro rfl
      exact ⟨rfl, hacc⟩
    · rintro ⟨rfl, -⟩
      rfl
  | cons c cs ih =>
    have hcons : Nat.ofDigitChars 10 (c :: cs) acc =
        Nat.ofDigitChars 10 cs (acc * 10 + (c.toNat - '0'.toNat)) := by
      rw [Nat.ofDigitChars_cons, Nat.mul_comm]
    by_cases hc : '0' ≤ c ∧ c ≤ '9'
    · have hd : c.isDigit = true := isDigit_iff.2 hc
      simp only [digits, if_pos hc, List.forall_mem_cons, hd, true_and, hcons]
      by_cases hover : limit < acc * 10 + (c.toNat - '0'.toNat)
      · simp only [if_pos hover, Option.some.injEq, reduceCtorEq, false_iff, not_and]
        intro _ hn hle
        have := le_ofDigitChars cs (acc * 10 + (c.toNat - '0'.toNat))
        omega
      · rw [if_neg hover]
        exact ih (by omega)
    · have hd : ¬ c.isDigit = true := fun h => hc (isDigit_iff.1 h)
      simp [digits, hc, hd]

theorem magnitude_eq_ok_iff {limit n : Nat} {e : NumeralFault} {cs : List Char} :
    magnitude limit e cs = .ok n ↔
      (∀ c ∈ cs, c.isDigit) ∧ n = Nat.ofDigitChars 10 cs 0 ∧ n ≤ limit := by
  rw [← digits_eq_some_some_iff (Nat.zero_le limit)]
  unfold magnitude
  split <;> simp_all

-- ---------------------------------------------------------------------------
-- Signed numerals
-- ---------------------------------------------------------------------------

theorem readSigned_plus {below above : Nat} {cs : List Char} (hne : cs ≠ []) :
    readSigned below above ('+' :: cs) = (magnitude above .tooLarge cs).map fun n : Nat => (n : Int) := by
  cases cs with
  | nil => exact absurd rfl hne
  | cons c cs =>
    simp only [readSigned]
    cases magnitude above .tooLarge (c :: cs) <;> rfl

theorem readSigned_minus {below above : Nat} {cs : List Char} (hne : cs ≠ []) :
    readSigned below above ('-' :: cs) =
      (magnitude below .tooSmall cs).map fun n : Nat => -(n : Int) := by
  cases cs with
  | nil => exact absurd rfl hne
  | cons c cs =>
    simp only [readSigned]
    cases magnitude below .tooSmall (c :: cs) <;> rfl

theorem readSigned_unsigned {below above : Nat} {c : Char} {cs : List Char} (hp : c ≠ '+')
    (hm : c ≠ '-') :
    readSigned below above (c :: cs) =
      (magnitude above .tooLarge (c :: cs)).map fun n : Nat => (n : Int) := by
  rw [readSigned.eq_def]
  split
  case h_6 => cases magnitude above .tooLarge (c :: cs) <;> rfl
  -- every other pattern makes the text empty or starts it with a sign
  all_goals simp_all

theorem spells_of_readSigned {below above : Nat} {v : List Char} {n : Int}
    (h : readSigned below above v = .ok n) : Spells v n ∧ -(below : Int) ≤ n ∧ n ≤ above := by
  rcases v with _ | ⟨c, cs⟩
  · cases h
  by_cases hp : c = '+'
  · subst hp
    have hne : cs ≠ [] := by rintro rfl; cases h
    rw [readSigned_plus hne, map_eq_ok_iff] at h
    obtain ⟨m, hm, rfl⟩ := h
    obtain ⟨hd, rfl, hle⟩ := magnitude_eq_ok_iff.1 hm
    exact ⟨.plus hne hd, by omega, by omega⟩
  by_cases hm : c = '-'
  · subst hm
    have hne : cs ≠ [] := by rintro rfl; cases h
    rw [readSigned_minus hne, map_eq_ok_iff] at h
    obtain ⟨m, hmag, rfl⟩ := h
    obtain ⟨hd, rfl, hle⟩ := magnitude_eq_ok_iff.1 hmag
    exact ⟨.minus hne hd, by omega, by omega⟩
  · rw [readSigned_unsigned hp hm, map_eq_ok_iff] at h
    obtain ⟨m, hmag, rfl⟩ := h
    obtain ⟨hd, rfl, hle⟩ := magnitude_eq_ok_iff.1 hmag
    exact ⟨.unsigned (List.cons_ne_nil c cs) hd, by omega, by omega⟩

theorem readSigned_of_spells {below above : Nat} {v : List Char} {n : Int} (h : Spells v n)
    (hlo : -(below : Int) ≤ n) (hhi : n ≤ above) : readSigned below above v = .ok n := by
  cases h with
  | unsigned hne hd =>
    obtain ⟨c, cs, rfl⟩ := List.exists_cons_of_ne_nil hne
    -- a numeral without a sign starts with a digit, which is no sign
    have hc := hd c List.mem_cons_self
    have hp : c ≠ '+' := by rintro rfl; cases hc
    have hm : c ≠ '-' := by rintro rfl; cases hc
    rw [readSigned_unsigned hp hm, map_eq_ok_iff]
    exact ⟨_, magnitude_eq_ok_iff.2 ⟨hd, rfl, by omega⟩, rfl⟩
  | plus hne hd =>
    rw [readSigned_plus hne, map_eq_ok_iff]
    exact ⟨_, magnitude_eq_ok_iff.2 ⟨hd, rfl, by omega⟩, rfl⟩
  | minus hne hd =>
    rw [readSigned_minus hne, map_eq_ok_iff]
    exact ⟨_, magnitude_eq_ok_iff.2 ⟨hd, rfl, by omega⟩, rfl⟩

/-- The reader accepts exactly the numerals within its bounds, and gives the number spelled. -/
theorem readSigned_eq_ok_iff {below above : Nat} {v : List Char} {n : Int} :
    readSigned below above v = .ok n ↔ Spells v n ∧ -(below : Int) ≤ n ∧ n ≤ above :=
  ⟨spells_of_readSigned, fun ⟨h, hlo, hhi⟩ => readSigned_of_spells h hlo hhi⟩

/-- A text reads as a 32-bit integer exactly when it spells it. -/
theorem readInt32_eq_ok_iff {v : List Char} {a : Int32} : readInt32 v = .ok a ↔ Spells v a.toInt := by
  unfold readInt32
  rw [map_eq_ok_iff]
  constructor
  · rintro ⟨n, hn, rfl⟩
    obtain ⟨hs, hlo, hhi⟩ := spells_of_readSigned hn
    rwa [Int32.toInt_ofInt_of_le (by omega) (by omega)]
  · intro hs
    have hlo := Int32.le_toInt a
    have hhi := Int32.toInt_lt a
    exact ⟨a.toInt, readSigned_of_spells hs (by omega) (by omega), Int32.ofInt_toInt a⟩

/-- The written form of an integer, with its explicit sign, spells it. -/
theorem spells_signed (n : Int) : Spells (signed n).toList n := by
  have hne : ∀ k, Nat.toDigits 10 k ≠ [] := fun _ => Nat.toDigits_ne_nil
  have hd : ∀ k, ∀ c ∈ Nat.toDigits 10 k, c.isDigit :=
    fun _ _ hc => Nat.isDigit_of_mem_toDigits (by decide) (by decide) hc
  by_cases h : 0 ≤ n
  · have hs := Spells.plus (hne n.toNat) (hd n.toNat)
    rw [Nat.ofDigitChars_ten_toDigits, Int.toNat_of_nonneg h] at hs
    simpa [signed, h, Int.repr_eq_if] using hs
  · have hs := Spells.minus (hne (-n).toNat) (hd (-n).toNat)
    rw [Nat.ofDigitChars_ten_toDigits, Int.toNat_of_nonneg (by omega), Int.neg_neg] at hs
    simpa [signed, h, Int.repr_eq_if] using hs

end Numeral

end BootCode
