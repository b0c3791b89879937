import Mathlib.Data.List.Basic
import Mathlib.Tactic.IntervalCases
import StructMatch.Source.Literal
import StructMatch.Text.Escape

/-!
# What a literal denotes

A string literal denotes the text between its quotes with the escapes in it resolved, `denoted?`.
The literal of a text denotes this text, `denotes_literal`, whatever follows it in the code, so
that different texts have different literals.
-/

namespace StructMatch.Text

open Source

/-- The character that an escape after its backslash stands for, and what follows. -/
def escaped? : List Char → Option (Char × List Char)
  | 'n' :: cs => some ('\n', cs)
  | 'r' :: cs => some ('\r', cs)
  | 't' :: cs => some ('\t', cs)
  | '0' :: cs => some ('\x00', cs)
  | '\\' :: cs => some ('\\', cs)
  | '\'' :: cs => some ('\'', cs)
  | '"' :: cs => some ('"', cs)
  | 'x' :: a :: b :: cs =>
    if '0' ≤ a && a ≤ '7' && isHexDigit b then
      some (Char.ofNat (digitsInBase 16 [a, b]), cs)
    else none
  | 'u' :: cs => (codePoint? cs).map fun (n, rest) => (Char.ofNat n, rest)
  | _ => none

/-- The characters up to the closing quote with their escapes resolved, and what follows the quote.
The first argument bounds the number of steps. -/
def denoted? : Nat → List Char → Option (List Char × List Char)
  | 0, _ => none
  | _ + 1, [] => none
  | n + 1, c :: cs =>
    if c = '"' then some ([], cs)
    else do
      let (d, rest) ← if c = '\\' then escaped? cs else some (c, cs)
      let (ds, rest) ← denoted? n rest
      some (d :: ds, rest)

/-- Whether a literal denotes a text. -/
def Denotes (literal text : String) : Prop :=
  ∃ cs, literal.toList = '"' :: cs ∧ denoted? (cs.length + 1) cs = some (text.toList, [])

/-! ## Escapes by number -/

theorem isHexDigit_digitChar {n : Nat} (h : n < 16) :
    isHexDigit n.digitChar = true ∧ hexValue n.digitChar = n := by
  interval_cases n <;> decide

theorem isHexDigit_of_mem_toDigits {n : Nat} {c : Char} (h : c ∈ Nat.toDigits 16 n) :
    isHexDigit c = true := by
  induction n using Nat.strongRecOn with
  | ind n ih =>
      by_cases hn : n < 16
      · rw [Nat.toDigits_of_lt_base hn, List.mem_singleton] at h
        rw [h]
        exact (isHexDigit_digitChar hn).1
      · rw [Nat.toDigits_of_base_le (by decide) (by omega), List.mem_append,
          List.mem_singleton] at h
        rcases h with h | rfl
        · exact ih (n / 16) (by omega) h
        · exact (isHexDigit_digitChar (Nat.mod_lt n (by decide))).1

theorem digitsInBase_toDigits (n : Nat) : digitsInBase 16 (Nat.toDigits 16 n) = n := by
  induction n using Nat.strongRecOn with
  | ind n ih =>
      by_cases hn : n < 16
      · rw [Nat.toDigits_of_lt_base hn]
        simp [digitsInBase, (isHexDigit_digitChar hn).2]
      · rw [Nat.toDigits_of_base_le (by decide) (by omega), digitsInBase, List.foldl_append]
        rw [← digitsInBase, ih (n / 16) (by omega)]
        simp only [List.foldl_cons, List.foldl_nil,
          (isHexDigit_digitChar (Nat.mod_lt n (by decide : 0 < 16))).2]
        omega

/-- The reader of a code point collects up to six digits. -/
theorem codePointGo_append {digits : List Char} (h : ∀ c ∈ digits, isHexDigit c = true)
    (value count : Nat) (hcount : count + digits.length ≤ 6) (rest : List Char) :
    codePoint?.go value count (digits ++ rest) =
      codePoint?.go (digits.foldl (fun n c => 16 * n + hexValue c) value)
        (count + digits.length) rest := by
  induction digits generalizing value count with
  | nil => rfl
  | cons c digits ih =>
      rw [List.forall_mem_cons] at h
      rw [List.length_cons] at hcount
      have hmark : c ≠ '_' := fun hc => absurd h.1 (by rw [hc]; decide)
      have hclose : c ≠ '\x7d' := fun hc => absurd h.1 (by rw [hc]; decide)
      have hroom : count < 6 := by omega
      rw [List.cons_append, codePoint?.go]
      simp only [hmark, hclose, h.1, hroom, decide_false, decide_true, Bool.false_and,
        Bool.and_self, if_true, Bool.false_eq_true, if_false]
      rw [ih h.2 _ _ (by omega), List.foldl_cons, List.length_cons, Nat.add_assoc,
        Nat.add_comm 1]

/-- The number in an escape by number is that of its character. -/
theorem codePoint?_toDigits (c : Char) (rest : List Char) :
    codePoint? ('\x7b' :: (Nat.toDigits 16 c.toNat ++ '\x7d' :: rest)) = some (c.toNat, rest) := by
  have hvalid := c.valid
  have hscalar : c.toNat < 0xD800 ∨ 0xE000 ≤ c.toNat ∧ c.toNat < 0x110000 := by
    simp only [UInt32.isValidChar, Nat.isValidChar] at hvalid
    show c.val.toNat < _ ∨ _ ≤ c.val.toNat ∧ c.val.toNat < _
    omega
  have hlength : (Nat.toDigits 16 c.toNat).length ≤ 6 :=
    (Nat.length_toDigits_le_iff (by decide) (by decide)).2 (by omega)
  have hpos : 0 < (Nat.toDigits 16 c.toNat).length := Nat.length_toDigits_pos
  rw [codePoint?, codePointGo_append (fun d hd => isHexDigit_of_mem_toDigits hd) 0 0 (by omega),
    ← digitsInBase, digitsInBase_toDigits, Nat.zero_add, codePoint?.go]
  simp [hpos, hscalar]

/-! ## The literal of a text -/

/-- What follows a backslash in place of a character, for the two that read it: the one resolves it
to the character, the other passes it. -/
structure IsEscape (cs : List Char) (c : Char) : Prop where
  denotes : ∀ rest, escaped? (cs ++ rest) = some (c, rest)
  passes : ∀ rest, afterEscape? .text true (cs ++ rest) = some rest

theorem isEscape_hexEscape (c : Char) :
    IsEscape ('u' :: '\x7b' :: (Nat.toDigits 16 c.toNat ++ ['\x7d'])) c := by
  refine ⟨fun rest => ?_, fun rest => ?_⟩
  · simp [escaped?, codePoint?_toDigits]
  · unfold afterEscape?
    simp [codePoint?_toDigits]

/-- The characters that are escaped by a letter or by themselves. -/
def shortEscapes : List Char := ['\x00', '\t', '\r', '\n', '\\', '"']

theorem escapeChar_of_mem_shortEscapes {c : Char} (h : c ∈ shortEscapes) :
    ∃ cs, escapeChar ⟨false, true⟩ c = '\\' :: cs ∧ IsEscape cs c := by
  simp only [shortEscapes, List.mem_cons, List.not_mem_nil, or_false] at h
  rcases h with rfl | rfl | rfl | rfl | rfl | rfl <;>
    exact ⟨_, rfl, fun _ => rfl, fun _ => rfl⟩

theorem escapeChar_of_notMem_shortEscapes {c : Char} (h : c ∉ shortEscapes) :
    escapeChar ⟨false, true⟩ c =
      if c ≠ '\'' ∧ needsNumber c = true then hexEscape c else [c] := by
  simp only [shortEscapes, List.mem_cons, List.not_mem_nil, or_false, not_or] at h
  obtain ⟨hnull, htab, hreturn, hfeed, hslash, hquote⟩ := h
  rw [escapeChar, if_neg hnull, if_neg htab, if_neg hreturn, if_neg hfeed, if_neg hslash,
    if_neg hquote]
  by_cases hsingle : c = '\''
  · simp [hsingle]
  · simp [hsingle]

/-- A character inside of a literal stands for itself, or is escaped. -/
theorem escapeChar_cases (c : Char) :
    (escapeChar ⟨false, true⟩ c = [c] ∧ c ≠ '"' ∧ c ≠ '\\' ∧ c ≠ '\r') ∨
      ∃ cs, escapeChar ⟨false, true⟩ c = '\\' :: cs ∧ IsEscape cs c := by
  by_cases hmem : c ∈ shortEscapes
  · exact .inr (escapeChar_of_mem_shortEscapes hmem)
  rw [escapeChar_of_notMem_shortEscapes hmem]
  by_cases hnumber : c ≠ '\'' ∧ needsNumber c = true
  · rw [if_pos hnumber]
    exact .inr ⟨_, rfl, isEscape_hexEscape c⟩
  · rw [if_neg hnumber]
    exact .inl ⟨rfl, fun h => hmem (by simp [shortEscapes, h]),
      fun h => hmem (by simp [shortEscapes, h]), fun h => hmem (by simp [shortEscapes, h])⟩

theorem length_escapeChar_pos (c : Char) : 0 < (escapeChar ⟨false, true⟩ c).length := by
  rcases escapeChar_cases c with ⟨hself, -⟩ | ⟨cs, hescape, -⟩
  · simp [hself]
  · simp [hescape]

/-- One character inside of a literal denotes itself. -/
theorem denoted?_escapeChar (c : Char) {n : Nat} {rest : List Char} {ds : List Char}
    {after : List Char} (h : denoted? n rest = some (ds, after)) :
    denoted? (n + 1) (escapeChar ⟨false, true⟩ c ++ rest) = some (c :: ds, after) := by
  rcases escapeChar_cases c with ⟨hself, hquote, hslash, -⟩ | ⟨cs, hescape, hcs⟩
  · simp [hself, denoted?, hquote, hslash, h]
  · simp [hescape, denoted?, hcs.denotes, h]

/-- The inside of a literal denotes the characters that it was made from. -/
theorem denoted?_literalBody (cs rest : List Char) {n : Nat}
    (hn : (literalBody cs).length < n) :
    denoted? n (literalBody cs ++ '"' :: rest) = some (cs, rest) := by
  induction cs generalizing n with
  | nil =>
      obtain ⟨m, rfl⟩ : ∃ m, n = m + 1 := ⟨n - 1, by omega⟩
      rfl
  | cons c cs ih =>
      obtain ⟨m, rfl⟩ : ∃ m, n = m + 1 := ⟨n - 1, by omega⟩
      unfold literalBody at hn ⊢
      split at hn
      · next hnull =>
          -- the null before an octal digit is written by its value
          have hc : c = '\x00' := by simp_all
          rw [if_pos hnull]
          have hrest := ih (n := m) <| by
            simp only [List.length_append, List.length_cons] at hn
            omega
          subst hc
          simp only [List.cons_append, List.nil_append, denoted?]
          simp [escaped?, isHexDigit, digitsInBase, hexValue, hrest]
      · next hnull =>
          rw [if_neg hnull, List.append_assoc]
          refine denoted?_escapeChar c (ih ?_)
          have hpos := length_escapeChar_pos c
          rw [List.length_append] at hn
          omega

/-- Texts whose literals begin in the same way are the same. -/
theorem literalBody_inj {cs ds rest rest' : List Char}
    (h : literalBody cs ++ '"' :: rest = literalBody ds ++ '"' :: rest') : cs = ds := by
  have hcs := denoted?_literalBody cs rest (n := (literalBody ds ++ '"' :: rest').length + 1)
    (by rw [← h, List.length_append]; omega)
  have hds := denoted?_literalBody ds rest' (n := (literalBody ds ++ '"' :: rest').length + 1)
    (by rw [List.length_append]; omega)
  rw [h, hds] at hcs
  exact (Prod.mk.inj (Option.some.inj hcs)).1.symm

/-- The reader of literals passes the inside of a literal. -/
theorem afterQuoted?_literalBody (cs rest : List Char) {n : Nat}
    (hn : (literalBody cs).length < n) :
    afterQuoted? .text n (literalBody cs ++ '"' :: rest) = some (afterSuffix rest) := by
  induction cs generalizing n with
  | nil =>
      obtain ⟨m, rfl⟩ : ∃ m, n = m + 1 := ⟨n - 1, by omega⟩
      rfl
  | cons c cs ih =>
      obtain ⟨m, rfl⟩ : ∃ m, n = m + 1 := ⟨n - 1, by omega⟩
      unfold literalBody at hn ⊢
      split at hn
      · next hnull =>
          have hrest := ih (n := m) <| by
            simp only [List.length_append, List.length_cons] at hn
            omega
          rw [if_pos hnull]
          have hpasses (rest : List Char) :
              afterEscape? .text true ('x' :: '0' :: '0' :: rest) = some rest := rfl
          simp [afterQuoted?, hpasses, hrest]
      · next hnull =>
          have hpos := length_escapeChar_pos c
          have hrest := ih (n := m) (by rw [List.length_append] at hn; omega)
          rw [if_neg hnull, List.append_assoc]
          rcases escapeChar_cases c with ⟨hself, hquote, hslash, hreturn⟩ | ⟨ds, hescape, hds⟩
          · simp [hself, afterQuoted?, hquote, hslash, hreturn, Quoted.admits, hrest]
          · simp [hescape, afterQuoted?, hds.passes, hrest]

/-- The literal of a text denotes the text. -/
theorem denotes_literal (text : String) : Denotes (literal text) text := by
  refine ⟨literalBody text.toList ++ ['"'], by simp [literal], ?_⟩
  exact denoted?_literalBody text.toList [] (by rw [List.length_append]; omega)

end StructMatch.Text
