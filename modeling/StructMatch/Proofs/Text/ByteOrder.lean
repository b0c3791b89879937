import Mathlib.Data.List.Lex
import Mathlib.Data.String.Basic

/-!
# The order of texts

Texts are compared character by character.  This is the order of their bytes, `lt_iff_utf8Bytes_lt`:
a code point that is less than another one is also less by the first byte in which the encodings of
the two differ.
-/

namespace StructMatch.Text

/-- The bytes of a text. -/
def utf8Bytes (text : String) : List UInt8 := text.toUTF8.data.toList

theorem utf8Bytes_eq (text : String) :
    utf8Bytes text = text.toList.flatMap String.utf8EncodeChar := by
  rw [utf8Bytes, String.toUTF8_eq_toByteArray, ← String.utf8Encode_toList, List.utf8Encode,
    List.toList_data_toByteArray]

/-! ## Characters -/

/-- The bytes by which the encoding of a code point goes on, with six bits in each. -/
def continuation : ℕ → ℕ → List UInt8
  | 0, _ => []
  | k + 1, n => continuation k (n / 64) ++ [UInt8.ofNat (n % 64 + 128)]

/-- How many bytes the encoding of a code point goes on by. -/
def continuationLength (n : ℕ) : ℕ :=
  if n ≤ 127 then 0 else if n ≤ 2047 then 1 else if n ≤ 65535 then 2 else 3

/-- The first byte, by which one can tell the length. -/
def leadByte (n : ℕ) : ℕ :=
  n / 64 ^ continuationLength n + [0, 192, 224, 240].getD (continuationLength n) 0

theorem toNat_lt (c : Char) : c.toNat < 0x110000 := by
  have hvalid := c.valid
  simp only [UInt32.isValidChar, Nat.isValidChar] at hvalid
  show c.val.toNat < _
  omega

theorem utf8EncodeChar_eq (c : Char) : String.utf8EncodeChar c =
    UInt8.ofNat (leadByte c.toNat) :: continuation (continuationLength c.toNat) c.toNat := by
  have hbound : c.val.toNat < 0x110000 := toNat_lt c
  unfold String.utf8EncodeChar leadByte continuationLength Char.toNat
  generalize c.val.toNat = n at hbound
  dsimp only
  split_ifs with hone htwo hthree
  · simp [continuation]
  · rw [Nat.mod_eq_of_lt (by omega)]
    simp [continuation]
  · rw [Nat.mod_eq_of_lt (by omega)]
    simp [continuation]
  · rw [Nat.mod_eq_of_lt (by omega)]
    simp [continuation, Nat.div_div_eq_div_mul]

/-- Of two code points the lesser one has the lesser first bits, or else it goes on by lesser
bytes. -/
theorem continuation_append_lt {m n : ℕ} (h : m < n) (k : ℕ) :
    m / 64 ^ k < n / 64 ^ k ∨ m / 64 ^ k = n / 64 ^ k ∧
      ∀ xs ys, continuation k m ++ xs < continuation k n ++ ys := by
  induction k generalizing m n with
  | zero => exact .inl (by simpa using h)
  | succ k ih =>
      rw [pow_succ', ← Nat.div_div_eq_div_mul, ← Nat.div_div_eq_div_mul]
      simp only [continuation, List.append_assoc]
      rcases (Nat.div_le_div_right h.le : m / 64 ≤ n / 64).lt_or_eq with hlt | heq
      · exact (ih hlt).imp_right fun ⟨hsame, hrest⟩ => ⟨hsame, fun _ _ => hrest _ _⟩
      · refine .inr ⟨by rw [heq], fun xs ys => ?_⟩
        have hsmall (v : ℕ) : v % 64 + 128 < UInt8.size := by
          have := Nat.mod_lt v (show 64 > 0 by decide)
          simp only [UInt8.size]
          omega
        have hlast : UInt8.ofNat (m % 64 + 128) < UInt8.ofNat (n % 64 + 128) :=
          (UInt8.ofNat_lt_iff_lt (hsmall m) (hsmall n)).2 (by omega)
        rw [heq]
        exact List.append_left_lt (List.cons_lt_cons_iff.2 (.inl hlast))

/-- The first byte lies between bounds that the length sets. -/
theorem leadByte_bounds {n : ℕ} (h : n < 0x110000) :
    [0, 192, 224, 240].getD (continuationLength n) 0 ≤ leadByte n ∧
      leadByte n < [128, 224, 240, 248].getD (continuationLength n) 0 := by
  unfold leadByte continuationLength
  split_ifs <;> simp <;> omega

theorem continuationLength_le (n : ℕ) : continuationLength n ≤ 3 := by
  unfold continuationLength
  split_ifs <;> decide

theorem continuationLength_mono {m n : ℕ} (h : m ≤ n) :
    continuationLength m ≤ continuationLength n := by
  unfold continuationLength
  split_ifs <;> omega

/-- A longer encoding has a greater first byte. -/
theorem leadByte_lt {m n : ℕ} (hm : m < 0x110000) (hn : n < 0x110000)
    (h : continuationLength m < continuationLength n) : leadByte m < leadByte n := by
  have hbounds : ∀ l ≤ 3, ∀ k < l, [128, 224, 240, 248].getD k 0 ≤ [0, 192, 224, 240].getD l 0 := by
    decide
  exact (leadByte_bounds hm).2.trans_le
    ((hbounds _ (continuationLength_le n) _ h).trans (leadByte_bounds hn).1)

theorem leadByte_lt_size {n : ℕ} (h : n < 0x110000) : leadByte n < UInt8.size := by
  have hbounds : ∀ k ≤ 3, [128, 224, 240, 248].getD k 0 < UInt8.size := by decide
  exact (leadByte_bounds h).2.trans (hbounds _ (continuationLength_le n))

/-- The lesser one of two characters has the lesser encoding, whatever follows. -/
theorem utf8EncodeChar_append_lt {c d : Char} (h : c < d) (xs ys : List UInt8) :
    String.utf8EncodeChar c ++ xs < String.utf8EncodeChar d ++ ys := by
  have hlt : c.toNat < d.toNat := h
  have hd := toNat_lt d
  rw [utf8EncodeChar_eq, utf8EncodeChar_eq, List.cons_append, List.cons_append,
    List.cons_lt_cons_iff, UInt8.ofNat_lt_iff_lt (leadByte_lt_size (hlt.trans hd))
      (leadByte_lt_size hd)]
  rcases (continuationLength_mono hlt.le).lt_or_eq with hlonger | hsame
  · exact .inl (leadByte_lt (hlt.trans hd) hd hlonger)
  · unfold leadByte
    rw [hsame]
    rcases continuation_append_lt hlt (continuationLength d.toNat) with hfirst | ⟨hfirst, hrest⟩
    · exact .inl (Nat.add_lt_add_right hfirst _)
    · exact .inr ⟨by rw [hfirst], hrest xs ys⟩

/-! ## Texts -/

theorem flatMap_utf8EncodeChar_lt {cs ds : List Char} (h : cs < ds) :
    cs.flatMap String.utf8EncodeChar < ds.flatMap String.utf8EncodeChar := by
  induction cs generalizing ds with
  | nil =>
      cases ds with
      | nil => exact absurd h (List.lt_irrefl _)
      | cons d ds =>
          rw [List.flatMap_nil, List.flatMap_cons]
          cases hd : String.utf8EncodeChar d with
          | nil => exact absurd (congrArg List.length hd) (by simp [(Char.utf8Size_pos d).ne'])
          | cons byte bytes => exact List.nil_lt_cons _ _
  | cons c cs ih =>
      cases ds with
      | nil => exact absurd h (List.not_lt_nil _)
      | cons d ds =>
          rw [List.flatMap_cons, List.flatMap_cons]
          rcases List.cons_lt_cons_iff.1 h with hlt | ⟨rfl, hrest⟩
          · exact utf8EncodeChar_append_lt hlt _ _
          · exact List.append_left_lt (ih hrest)

/-- The order of texts is the order of their bytes. -/
theorem lt_iff_utf8Bytes_lt (s t : String) : s < t ↔ utf8Bytes s < utf8Bytes t := by
  rw [utf8Bytes_eq, utf8Bytes_eq]
  refine ⟨flatMap_utf8EncodeChar_lt, fun h => ?_⟩
  rcases lt_trichotomy s t with hlt | rfl | hgt
  · exact hlt
  · exact absurd h (List.lt_irrefl _)
  · exact absurd (flatMap_utf8EncodeChar_lt hgt) (List.lt_asymm h)

end StructMatch.Text
