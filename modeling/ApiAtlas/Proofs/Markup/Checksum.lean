import ApiAtlas.Markup.Link
import Mathlib.Data.Nat.Bitwise
import Mathlib.Logic.Function.Iterate

/-!
# When link targets have different numbers

**Input.** The bytes of two link targets.

**Definitions.** `word` reads bytes as one number, lowest byte first.  Two targets are `Near` when
their bytes differ in at most four places next to each other.

**Results.**
* `encode8_inj`: texts with the same bytes are the same.
* `checkBit_inj`, `checkBit_xor_double`: a step of the check loses nothing, and bits above the lowest
  one only move down.
* `foldl_checkByte`: so the check of bytes is the check of their word, bit by bit.
* `check_window_inj`: bytes that differ in four places next to each other have different checks.
* `reference_inj_of_near`: so have targets that are near.

Targets that are further apart may have the same number.
-/

namespace ApiAtlas

namespace Encoding

theorem codePoint_lt (c : Char) : Text.codePoint c < 0x110000 := by
  have hc : c.toNat < 0x110000 := by
    rcases c.valid with h | ⟨_, h⟩
    · exact Nat.lt_trans h (by decide)
    · exact h
  rw [Text.codePoint]
  split
  · omega
  · exact hc

theorem ofNat_byte_inj {m n : Nat} (hm : m < 256) (hn : n < 256) :
    UInt8.ofNat m = UInt8.ofNat n ↔ m = n := by
  rw [← UInt8.toNat_inj, UInt8.toNat_ofNat', UInt8.toNat_ofNat', Nat.mod_eq_of_lt hm, Nat.mod_eq_of_lt hn]

/-- The bytes of a character tell the character and where they end. -/
theorem encodeChar_append_inj {c d : Char} {s t : Bytes}
    (h : encodeChar c ++ s = encodeChar d ++ t) : c = d ∧ s = t := by
  have hc := codePoint_lt c
  have hd := codePoint_lt d
  suffices hcode : Text.codePoint c = Text.codePoint d ∧ s = t from
    ⟨Text.codePoint_injective hcode.1, hcode.2⟩
  -- The first byte of a character tells how many follow, so only four of the cases agree.
  simp only [encodeChar] at h
  split_ifs at h <;>
    simp (disch := omega) only [List.cons_append, List.nil_append, List.cons.injEq,
      ofNat_byte_inj] at h <;>
    grind

theorem encodeChar_ne_nil (c : Char) : encodeChar c ≠ [] := by
  simp only [encodeChar]
  split_ifs <;> simp

theorem encode8_inj {u v : Text} (h : encode8 u = encode8 v) : u = v := by
  induction u generalizing v with
  | nil =>
      cases v with
      | nil =>
          rfl
      | cons d v =>
          exact absurd h.symm (List.append_ne_nil_of_left_ne_nil (encodeChar_ne_nil d) _)
  | cons c u ih =>
      cases v with
      | nil =>
          exact absurd h (List.append_ne_nil_of_left_ne_nil (encodeChar_ne_nil c) _)
      | cons d v =>
          obtain ⟨hhead, htail⟩ := encodeChar_append_inj h
          rw [hhead, ih htail]

end Encoding

namespace Link

section Steps

theorem checkBit_lt {c : Nat} (hc : c < 2 ^ 32) : checkBit c < 2 ^ 32 := by
  rw [checkBit]
  split
  · exact Nat.xor_lt_two_pow (by omega) (by decide)
  · omega

/-- The highest bit tells whether the lowest one was set. -/
theorem testBit_checkBit {c : Nat} (hc : c < 2 ^ 32) :
    (checkBit c).testBit 31 = decide (c % 2 = 1) := by
  have hhalf : (c / 2).testBit 31 = false := Nat.testBit_lt_two_pow (by omega)
  rw [checkBit]
  split
  · rw [Nat.testBit_xor, hhalf, ‹c % 2 = 1›]
    decide
  · simp [hhalf, ‹¬ c % 2 = 1›]

theorem checkBit_inj {c d : Nat} (hc : c < 2 ^ 32) (hd : d < 2 ^ 32)
    (h : checkBit c = checkBit d) : c = d := by
  have hbit : (c % 2 = 1) ↔ (d % 2 = 1) := by
    rw [← decide_eq_decide, ← testBit_checkBit hc, ← testBit_checkBit hd, h]
  rw [checkBit, checkBit] at h
  by_cases hodd : c % 2 = 1
  · rw [if_pos hodd, if_pos (hbit.1 hodd)] at h
    have hhalf : c / 2 = d / 2 := Nat.xor_left_injective h
    have := hbit.1 hodd
    omega
  · rw [if_neg hodd, if_neg (mt hbit.2 hodd)] at h
    have := mt hbit.2 hodd
    omega

/-- Bits above the lowest one only move down. -/
theorem checkBit_xor_double (c y : Nat) : checkBit (c ^^^ 2 * y) = checkBit c ^^^ y := by
  have hlow : (c ^^^ 2 * y) % 2 = c % 2 := by
    rw [Nat.xor_mod_two_eq]
    omega
  have hhigh : (c ^^^ 2 * y) / 2 = c / 2 ^^^ y := by
    rw [Nat.xor_div_two, Nat.mul_div_cancel_left y (by decide)]
  rw [checkBit, checkBit, hlow, hhigh]
  split
  · rw [Nat.xor_assoc, Nat.xor_comm y, Nat.xor_assoc]
  · rfl

theorem iterate_checkBit_lt (k : Nat) {c : Nat} (hc : c < 2 ^ 32) : checkBit^[k] c < 2 ^ 32 := by
  induction k generalizing c with
  | zero =>
      exact hc
  | succ k ih =>
      exact ih (checkBit_lt hc)

theorem iterate_checkBit_inj (k : Nat) {c d : Nat} (hc : c < 2 ^ 32) (hd : d < 2 ^ 32)
    (h : checkBit^[k] c = checkBit^[k] d) : c = d := by
  induction k generalizing c d with
  | zero =>
      exact h
  | succ k ih =>
      exact checkBit_inj hc hd (ih (checkBit_lt hc) (checkBit_lt hd) h)

theorem iterate_checkBit_xor (k c y : Nat) :
    checkBit^[k] (c ^^^ 2 ^ k * y) = checkBit^[k] c ^^^ y := by
  induction k generalizing c with
  | zero =>
      simp
  | succ k ih =>
      rw [Function.iterate_succ_apply, Function.iterate_succ_apply, Nat.pow_succ',
        Nat.mul_assoc, checkBit_xor_double, ih]

end Steps

section Words

/-- Bytes as one number, lowest byte first. -/
def word : Bytes → Nat
  | [] => 0
  | b :: bs => b.toNat ^^^ 2 ^ 8 * word bs

theorem word_lt (bs : Bytes) : word bs < 2 ^ (8 * bs.length) := by
  induction bs with
  | nil =>
      decide
  | cons b bs ih =>
      have hb : b.toNat < 2 ^ 8 := b.toNat_lt
      rw [word, List.length_cons]
      apply Nat.xor_lt_two_pow
      · calc b.toNat < 2 ^ 8 := hb
          _ ≤ 2 ^ (8 * (bs.length + 1)) := Nat.pow_le_pow_right (by decide) (by omega)
      · calc 2 ^ 8 * word bs < 2 ^ 8 * 2 ^ (8 * bs.length) := by omega
          _ = 2 ^ (8 * (bs.length + 1)) := by rw [← Nat.pow_add]; congr 1; omega

theorem word_inj {as bs : Bytes} (hlength : as.length = bs.length) (h : word as = word bs) :
    as = bs := by
  induction as generalizing bs with
  | nil =>
      exact (List.eq_nil_of_length_eq_zero hlength.symm).symm
  | cons a as ih =>
      cases bs with
      | nil =>
          simp at hlength
      | cons b bs =>
          have hlow : ∀ (x : UInt8) (w : Nat), (x.toNat ^^^ 2 ^ 8 * w) % 2 ^ 8 = x.toNat := by
            intro x w
            have hx : x.toNat < 2 ^ 8 := x.toNat_lt
            rw [Nat.xor_mod_two_pow, Nat.mul_mod_right, Nat.xor_zero, Nat.mod_eq_of_lt hx]
          have hhigh : ∀ (x : UInt8) (w : Nat), (x.toNat ^^^ 2 ^ 8 * w) / 2 ^ 8 = w := by
            intro x w
            have hx : x.toNat < 2 ^ 8 := x.toNat_lt
            rw [Nat.xor_div_two_pow, Nat.mul_div_cancel_left w (by decide), Nat.div_eq_of_lt hx,
              Nat.zero_xor]
          rw [word, word] at h
          have hhead : a = b := by
            apply UInt8.toNat_inj.1
            rw [← hlow a (word as), h, hlow]
          have htail : word as = word bs := by
            rw [← hhigh a (word as), h, hhigh]
          rw [hhead, ih (by simpa using hlength) htail]

theorem checkByte_eq (c : Nat) (b : UInt8) : checkByte c b = checkBit^[8] (c ^^^ b.toNat) := by
  simp only [checkByte, Function.iterate_succ_apply, Function.iterate_zero_apply]

/-- The check of bytes goes through the bits of their word. -/
theorem foldl_checkByte (bs : Bytes) (c : Nat) :
    bs.foldl checkByte c = checkBit^[8 * bs.length] (c ^^^ word bs) := by
  induction bs generalizing c with
  | nil =>
      simp [word]
  | cons b bs ih =>
      rw [List.foldl_cons, ih, checkByte_eq, ← iterate_checkBit_xor, ← Function.iterate_add_apply,
        word, Nat.xor_assoc, List.length_cons, Nat.mul_succ]

theorem foldl_checkByte_lt (bs : Bytes) {c : Nat} (hc : c < 2 ^ 32) :
    bs.foldl checkByte c < 2 ^ 32 := by
  induction bs generalizing c with
  | nil =>
      exact hc
  | cons b bs ih =>
      have hb : b.toNat < 2 ^ 32 := Nat.lt_trans b.toNat_lt (by decide)
      rw [List.foldl_cons, checkByte_eq]
      exact ih (iterate_checkBit_lt 8 (Nat.xor_lt_two_pow hc hb))

theorem foldl_checkByte_inj (bs : Bytes) {c d : Nat} (hc : c < 2 ^ 32) (hd : d < 2 ^ 32)
    (h : bs.foldl checkByte c = bs.foldl checkByte d) : c = d := by
  induction bs generalizing c d with
  | nil =>
      exact h
  | cons b bs ih =>
      have hb : b.toNat < 2 ^ 32 := Nat.lt_trans b.toNat_lt (by decide)
      have hcb := Nat.xor_lt_two_pow hc hb
      have hdb := Nat.xor_lt_two_pow hd hb
      rw [List.foldl_cons, List.foldl_cons, checkByte_eq, checkByte_eq] at h
      have hstep := ih (iterate_checkBit_lt 8 hcb) (iterate_checkBit_lt 8 hdb) h
      exact Nat.xor_left_injective (iterate_checkBit_inj 8 hcb hdb hstep)

/-- Bytes that differ in at most four places next to each other have different checks. -/
theorem check_window_inj {front back xs ys : Bytes} (hlength : xs.length = ys.length)
    (hfour : xs.length ≤ 4) (h : check (front ++ xs ++ back) = check (front ++ ys ++ back)) :
    xs = ys := by
  have hstart : (0xFFFFFFFF : Nat) < 2 ^ 32 := by decide
  have hfront := foldl_checkByte_lt front hstart
  have hword : ∀ zs : Bytes, zs.length ≤ 4 → word zs < 2 ^ 32 := by
    intro zs hzs
    exact Nat.lt_of_lt_of_le (word_lt zs) (Nat.pow_le_pow_right (by decide) (by omega))
  have hfold := Nat.xor_left_injective h
  simp only [List.foldl_append] at hfold
  -- What comes after the window cannot make the two checks equal again.
  have hwindow := foldl_checkByte_inj back (foldl_checkByte_lt xs hfront)
    (foldl_checkByte_lt ys hfront) hfold
  rw [foldl_checkByte xs, foldl_checkByte ys, ← hlength] at hwindow
  have hmixed := iterate_checkBit_inj _ (Nat.xor_lt_two_pow hfront (hword xs hfour))
    (Nat.xor_lt_two_pow hfront (hword ys (by omega))) hwindow
  exact word_inj hlength (Nat.xor_right_injective hmixed)

end Words

/-- Targets whose bytes differ in at most four places next to each other. -/
def Near (u v : Text) : Prop :=
  ∃ front xs ys back : Bytes, Encoding.encode8 u = front ++ xs ++ back ∧
    Encoding.encode8 v = front ++ ys ++ back ∧ xs.length = ys.length ∧ xs.length ≤ 4

/-- Targets that are near have different numbers. -/
theorem reference_inj_of_near {u v : Text} (hnear : Near u v) (h : reference u = reference v) :
    u = v := by
  obtain ⟨front, xs, ys, back, hu, hv, hlength, hfour⟩ := hnear
  rw [reference, reference, hu, hv] at h
  have hwindow := check_window_inj hlength hfour h
  apply Encoding.encode8_inj
  rw [hu, hv, hwindow]

end Link

end ApiAtlas
