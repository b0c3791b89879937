import Mathlib.Tactic.IntervalCases
import Mathlib.Tactic.SplitIfs
import StructMatch.Console.Json
import StructMatch.Text.Digit

/-!
# Reading JSON documents

A reader of documents that consist of texts, whole numbers, lists and records.  It takes a whole
text, passes over blanks between the tokens, and knows all escapes of texts, also those that nothing
here writes.  So it tells independently of the writer which document a text is.

What is written is read back, at every depth and with anything after it that does not go on with a
digit, `readValue?_write`.  So a line with a document is that document and nothing else,
`read?_render`.
-/

namespace StructMatch.Console.Json

/-! ## Texts and numbers -/

/-- Whether a character counts for nothing between tokens. -/
def isBlank (c : Char) : Bool := c = ' ' || c = '\t' || c = '\n' || c = '\r'

/-- The text from its first character on that counts. -/
def skipBlanks (cs : List Char) : List Char := cs.dropWhile isBlank

/-- The number that four hexadecimal digits stand for, and what follows them. -/
def codeUnit? : List Char → Option (Nat × List Char)
  | a :: b :: c :: d :: rest =>
    if [a, b, c, d].all Text.isHexDigit then some (Text.digitsInBase 16 [a, b, c, d], rest)
    else none
  | _ => none

/-- The character that an escape stands for, after its backslash.  A character beyond the first
plane is given by two numbers. -/
def readEscape? : List Char → Option (Char × List Char)
  | '"' :: rest => some ('"', rest)
  | '\\' :: rest => some ('\\', rest)
  | '/' :: rest => some ('/', rest)
  | 'b' :: rest => some ('\x08', rest)
  | 'f' :: rest => some ('\x0c', rest)
  | 'n' :: rest => some ('\n', rest)
  | 'r' :: rest => some ('\r', rest)
  | 't' :: rest => some ('\t', rest)
  | 'u' :: cs => do
    let (unit, rest) ← codeUnit? cs
    if unit < 0xD800 ∨ 0xE000 ≤ unit then some (Char.ofNat unit, rest)
    else if unit < 0xDC00 then
      match rest with
      | '\\' :: 'u' :: cs => do
        let (low, rest) ← codeUnit? cs
        if 0xDC00 ≤ low ∧ low < 0xE000 then
          some (Char.ofNat (0x10000 + 0x400 * (unit - 0xD800) + (low - 0xDC00)), rest)
        else none
      | _ => none
    else none
  | _ => none

/-- The inside of a text up to its closing quote, and what follows the quote.  The fuel bounds the
number of its characters. -/
def readBody? : Nat → List Char → Option (List Char × List Char)
  | 0, _ | _, [] => none
  | n + 1, c :: cs =>
    if c = '"' then some ([], cs)
    else do
      let (d, rest) ←
        if c = '\\' then readEscape? cs else if c.toNat < 32 then none else some (c, cs)
      let (ds, rest) ← readBody? n rest
      some (d :: ds, rest)

/-- A whole number.  It has no zeros before it. -/
def readCount? (cs : List Char) : Option (Nat × List Char) :=
  let digits := cs.takeWhile Char.isDigit
  if digits = [] || (digits.head? = some '0' && digits ≠ ['0']) then none
  else some (Nat.ofDigitChars 10 digits 0, cs.dropWhile Char.isDigit)

/-! ## Values -/

mutual

/-- A part of a document at the beginning of a text, and what follows it. -/
def readValue? : Nat → List Char → Option (Json × List Char)
  | 0, _ => none
  | n + 1, cs =>
    match skipBlanks cs with
    | '"' :: cs =>
      (readBody? cs.length cs).map fun (body, rest) => (.text (String.ofList body), rest)
    | '[' :: cs =>
      match skipBlanks cs with
      | ']' :: rest => some (.list [], rest)
      | cs => (readItems? n cs).map fun (items, rest) => (.list items, rest)
    | '\x7b' :: cs =>
      match skipBlanks cs with
      | '\x7d' :: rest => some (.record [], rest)
      | cs => (readFields? n cs).map fun (fields, rest) => (.record fields, rest)
    | cs => (readCount? cs).map fun (number, rest) => (.count number, rest)

/-- The items of a list up to its closing bracket, and what follows the bracket. -/
def readItems? : Nat → List Char → Option (List Json × List Char)
  | 0, _ => none
  | n + 1, cs => do
    let (item, rest) ← readValue? n cs
    match skipBlanks rest with
    | ',' :: cs => (readItems? n cs).map fun (items, rest) => (item :: items, rest)
    | ']' :: rest => some ([item], rest)
    | _ => none

/-- The fields of a record up to its closing bracket, and what follows the bracket. -/
def readFields? : Nat → List Char → Option (List (String × Json) × List Char)
  | 0, _ => none
  | n + 1, cs =>
    match skipBlanks cs with
    | '"' :: cs => do
      let (name, rest) ← readBody? cs.length cs
      match skipBlanks rest with
      | ':' :: cs => do
        let (value, rest) ← readValue? n cs
        match skipBlanks rest with
        | ',' :: cs =>
          (readFields? n cs).map fun (fields, rest) => ((String.ofList name, value) :: fields, rest)
        | '\x7d' :: rest => some ([(String.ofList name, value)], rest)
        | _ => none
      | _ => none
    | _ => none

end

/-- The document that a text is, if it is one and nothing else. -/
def read? (text : String) : Option Json :=
  match readValue? (text.toList.length + 1) text.toList with
  | some (json, rest) => if skipBlanks rest = [] then some json else none
  | none => none

/-! ## Texts and numbers are read back -/

theorem codeUnit?_append {digits : List Char} (hlength : digits.length = 4)
    (h : digits.all Text.isHexDigit = true) (rest : List Char) :
    codeUnit? (digits ++ rest) = some (Text.digitsInBase 16 digits, rest) := by
  match digits, hlength with
  | [_, _, _, _], _ => exact if_pos h

theorem readEscape?_number {c : Char} {digits : List Char} (hc : c.toNat < 32)
    (hlength : digits.length = 4) (hdigits : digits.all Text.isHexDigit = true)
    (hvalue : Text.digitsInBase 16 digits = c.toNat) (rest : List Char) :
    readEscape? ('u' :: (digits ++ rest)) = some (c, rest) := by
  have hlow : c.toNat < 0xD800 ∨ 0xE000 ≤ c.toNat := Or.inl (by omega)
  simp only [readEscape?, codeUnit?_append hlength hdigits, hvalue, Option.bind_eq_bind,
    Option.bind_some, if_pos hlow, Char.ofNat_toNat]

/-- The characters that are escaped by a letter or by themselves. -/
def shortEscapes : List Char := ['"', '\\', '\x08', '\x0c', '\n', '\r', '\t']

theorem escapeChar_of_mem_shortEscapes {c : Char} (h : c ∈ shortEscapes) :
    ∃ cs, escapeChar c = '\\' :: cs ∧ ∀ rest, readEscape? (cs ++ rest) = some (c, rest) := by
  simp only [shortEscapes, List.mem_cons, List.not_mem_nil, or_false] at h
  rcases h with rfl | rfl | rfl | rfl | rfl | rfl | rfl <;> exact ⟨_, rfl, fun _ => rfl⟩

theorem escapeChar_of_notMem_shortEscapes {c : Char} (h : c ∉ shortEscapes) :
    escapeChar c = if c.toNat < 16 then "\\u000".toList ++ Nat.toDigits 16 c.toNat
      else if c.toNat < 32 then "\\u00".toList ++ Nat.toDigits 16 c.toNat else [c] := by
  simp only [shortEscapes, List.mem_cons, List.not_mem_nil, or_false, not_or] at h
  obtain ⟨hquote, hslash, hback, hform, hfeed, hreturn, htab⟩ := h
  rw [escapeChar, if_neg hquote, if_neg hslash, if_neg hback, if_neg hform, if_neg hfeed,
    if_neg hreturn, if_neg htab]

/-- A character inside of a text stands for itself, or is escaped. -/
theorem escapeChar_cases (c : Char) :
    (escapeChar c = [c] ∧ c ≠ '"' ∧ c ≠ '\\' ∧ ¬ c.toNat < 32) ∨
      ∃ cs, escapeChar c = '\\' :: cs ∧ ∀ rest, readEscape? (cs ++ rest) = some (c, rest) := by
  have hshort : ∀ n < 16, ("000".toList ++ Nat.toDigits 16 n).length = 4 ∧
      ("000".toList ++ Nat.toDigits 16 n).all Text.isHexDigit = true ∧
      Text.digitsInBase 16 ("000".toList ++ Nat.toDigits 16 n) = n := by
    decide
  have hlong : ∀ n < 32, 16 ≤ n → ("00".toList ++ Nat.toDigits 16 n).length = 4 ∧
      ("00".toList ++ Nat.toDigits 16 n).all Text.isHexDigit = true ∧
      Text.digitsInBase 16 ("00".toList ++ Nat.toDigits 16 n) = n := by
    decide
  by_cases hmem : c ∈ shortEscapes
  · exact .inr (escapeChar_of_mem_shortEscapes hmem)
  rw [escapeChar_of_notMem_shortEscapes hmem]
  by_cases hlow : c.toNat < 16
  · obtain ⟨hlength, hdigits, hvalue⟩ := hshort c.toNat hlow
    rw [if_pos hlow]
    exact .inr ⟨'u' :: ("000".toList ++ Nat.toDigits 16 c.toNat), rfl,
      fun rest => readEscape?_number (by omega) hlength hdigits hvalue rest⟩
  rw [if_neg hlow]
  by_cases hcontrol : c.toNat < 32
  · obtain ⟨hlength, hdigits, hvalue⟩ := hlong c.toNat hcontrol (Nat.le_of_not_lt hlow)
    rw [if_pos hcontrol]
    exact .inr ⟨'u' :: ("00".toList ++ Nat.toDigits 16 c.toNat), rfl,
      fun rest => readEscape?_number hcontrol hlength hdigits hvalue rest⟩
  · rw [if_neg hcontrol]
    exact .inl ⟨rfl, fun h => hmem (by simp [shortEscapes, h]),
      fun h => hmem (by simp [shortEscapes, h]), hcontrol⟩

/-- The inside of a text is read back. -/
theorem readBody?_escaped (cs rest : List Char) {n : Nat} (hn : cs.length < n) :
    readBody? n (cs.flatMap escapeChar ++ '"' :: rest) = some (cs, rest) := by
  induction cs generalizing n with
  | nil =>
      cases n with
      | zero => exact absurd hn (Nat.not_lt_zero _)
      | succ n => rfl
  | cons c cs ih =>
      cases n with
      | zero => exact absurd hn (Nat.not_lt_zero _)
      | succ n =>
          have hrest := ih (Nat.lt_of_succ_lt_succ hn)
          rw [List.flatMap_cons, List.append_assoc]
          obtain ⟨hself, hquote, hslash, hcontrol⟩ | ⟨escape, hescape, hread⟩ := escapeChar_cases c
          · rw [hself, List.singleton_append, readBody?, if_neg hquote, if_neg hslash,
              if_neg hcontrol]
            simp [hrest]
          · rw [hescape, List.cons_append, readBody?, if_neg (by decide), if_pos rfl, hread]
            simp [hrest]

theorem length_le_escaped (cs : List Char) : cs.length ≤ (cs.flatMap escapeChar).length := by
  induction cs with
  | nil => exact Nat.le_refl 0
  | cons c cs ih =>
      have hpos : 0 < (escapeChar c).length := by
        obtain ⟨hself, -⟩ | ⟨escape, hescape, -⟩ := escapeChar_cases c
        · rw [hself]
          exact Nat.one_pos
        · rw [hescape]
          exact Nat.succ_pos _
      rw [List.flatMap_cons, List.length_append, List.length_cons]
      omega

/-- A text is read back from its quotes. -/
theorem readBody?_quote (text : String) (rest : List Char) : ∃ cs, quote text ++ rest = '"' :: cs ∧
    readBody? cs.length cs = some (text.toList, rest) := by
  have hlength := length_le_escaped text.toList
  refine ⟨text.toList.flatMap escapeChar ++ '"' :: rest, by simp [quote],
    readBody?_escaped _ _ ?_⟩
  rw [List.length_append, List.length_cons]
  omega

theorem head?_toDigits_eq_zero {n : Nat} (h : (Nat.toDigits 10 n).head? = some '0') :
    Nat.toDigits 10 n = ['0'] := by
  induction n using Nat.strongRecOn with
  | ind n ih =>
      by_cases hn : n < 10
      · rw [Nat.toDigits_of_lt_base hn] at h ⊢
        rw [List.head?_cons, Option.some_inj] at h
        rw [h]
      · -- the digits before the last one are those of a smaller number, which is not zero
        obtain ⟨c, cs, hcs⟩ :=
          List.exists_cons_of_ne_nil (Nat.toDigits_ne_nil (b := 10) (n := n / 10))
        rw [Nat.toDigits_of_base_le (by decide) (by omega), hcs, List.cons_append,
          List.head?_cons, ← List.head?_cons (l := cs), ← hcs] at h
        have hzero := congrArg (Nat.ofDigitChars 10 · 0) (ih (n / 10) (by omega) h)
        have hvalue : n / 10 = 0 := (Nat.ofDigitChars_ten_toDigits.symm.trans hzero).trans rfl
        omega

/-- A number is read back if no digit follows it. -/
theorem readCount?_toDigits (n : Nat) {rest : List Char}
    (hrest : ∀ c ∈ rest.head?, c.isDigit = false) :
    readCount? (Nat.toDigits 10 n ++ rest) = some (n, rest) := by
  have hdigits : ∀ c ∈ Nat.toDigits 10 n, c.isDigit = true := fun c hc =>
    Nat.isDigit_of_mem_toDigits (by decide) (by decide) hc
  have hstop : rest.takeWhile Char.isDigit = [] ∧ rest.dropWhile Char.isDigit = rest := by
    cases rest with
    | nil => exact ⟨rfl, rfl⟩
    | cons c rest =>
        have hc := hrest c rfl
        exact ⟨by rw [List.takeWhile_cons, hc]; rfl, by rw [List.dropWhile_cons, hc]; rfl⟩
  have htake : (Nat.toDigits 10 n ++ rest).takeWhile Char.isDigit = Nat.toDigits 10 n := by
    rw [List.takeWhile_append_of_pos hdigits, hstop.1, List.append_nil]
  have hdrop : (Nat.toDigits 10 n ++ rest).dropWhile Char.isDigit = rest := by
    rw [List.dropWhile_append_of_pos hdigits, hstop.2]
  have hzero : ¬ ((Nat.toDigits 10 n).head? = some '0' ∧ Nat.toDigits 10 n ≠ ['0']) :=
    fun h => h.2 (head?_toDigits_eq_zero h.1)
  simp only [readCount?, htake, hdrop]
  rw [if_neg, Nat.ofDigitChars_ten_toDigits]
  simpa [Nat.toDigits_ne_nil] using hzero

/-! ## Values are read back -/

mutual

/-- The fuel that it takes to read a part of a document. -/
def size : Json → Nat
  | text _ | count _ => 1
  | list items => 1 + sizeOfItems items
  | record fields => 1 + sizeOfFields fields

/-- The fuel that it takes to read the items of a list. -/
def sizeOfItems : List Json → Nat
  | [] => 0
  | item :: items => 1 + item.size + sizeOfItems items

/-- The fuel that it takes to read the fields of a record. -/
def sizeOfFields : List (String × Json) → Nat
  | [] => 0
  | (_, value) :: fields => 1 + value.size + sizeOfFields fields

end

theorem skipBlanks_newLine (depth : Nat) (cs : List Char) :
    skipBlanks (newLine depth ++ cs) = skipBlanks cs := by
  have hblank : ∀ c ∈ newLine depth, isBlank c = true := by
    intro c hc
    rw [newLine, List.mem_cons, List.mem_replicate] at hc
    rcases hc with rfl | ⟨-, rfl⟩ <;> rfl
  exact List.dropWhile_append_of_pos hblank

theorem skipBlanks_cons {c : Char} (hc : isBlank c = false) (cs : List Char) :
    skipBlanks (c :: cs) = c :: cs := by
  rw [skipBlanks, List.dropWhile_cons, hc]
  rfl

/-- A value is read from its first character on. -/
theorem readValue?_newLine (n depth : Nat) (cs : List Char) :
    readValue? n (newLine depth ++ cs) = readValue? n cs := by
  cases n with
  | zero => rw [readValue?, readValue?]
  | succ n => rw [readValue?, readValue?, skipBlanks_newLine]

theorem readItems?_newLine (n depth : Nat) (cs : List Char) :
    readItems? n (newLine depth ++ cs) = readItems? n cs := by
  cases n with
  | zero => rw [readItems?, readItems?]
  | succ n => rw [readItems?, readItems?, readValue?_newLine]

theorem readFields?_newLine (n depth : Nat) (cs : List Char) :
    readFields? n (newLine depth ++ cs) = readFields? n cs := by
  cases n with
  | zero => rw [readFields?, readFields?]
  | succ n => rw [readFields?, readFields?, skipBlanks_newLine]

section Steps

variable {n : Nat} {cs more next rest : List Char} {item value : Json} {items : List Json}
  {name : String} {fields : List (String × Json)}

theorem readItems?_last (hitem : readValue? n cs = some (item, more))
    (hmore : skipBlanks more = ']' :: rest) : readItems? (n + 1) cs = some ([item], rest) := by
  simp [readItems?, hitem, hmore]

theorem readItems?_cons (hitem : readValue? n cs = some (item, more))
    (hmore : skipBlanks more = ',' :: next) (hnext : readItems? n next = some (items, rest)) :
    readItems? (n + 1) cs = some (item :: items, rest) := by
  simp [readItems?, hitem, hmore, hnext]

/-- The name of a field is read back, and its value after it. -/
theorem readFields?_name (hvalue : readValue? n cs = some (value, more)) :
    readFields? (n + 1) (quote name ++ ':' :: ' ' :: cs) =
      match skipBlanks more with
      | ',' :: cs => (readFields? n cs).map fun (fields, rest) => ((name, value) :: fields, rest)
      | '\x7d' :: rest => some ([(name, value)], rest)
      | _ => none := by
  obtain ⟨inside, hinside, hread⟩ := readBody?_quote name (':' :: ' ' :: cs)
  have hblank : readValue? n (' ' :: cs) = some (value, more) := by
    rw [← hvalue]
    cases n with
    | zero => rw [readValue?, readValue?]
    | succ n => rw [readValue?, readValue?]; rfl
  rw [hinside, readFields?, skipBlanks_cons (by decide)]
  simp only [hread, Option.bind_eq_bind, Option.bind_some, skipBlanks_cons (c := ':') (by decide),
    hblank, String.ofList_toList]

theorem readFields?_last (hvalue : readValue? n cs = some (value, more))
    (hmore : skipBlanks more = '\x7d' :: rest) :
    readFields? (n + 1) (quote name ++ ':' :: ' ' :: cs) = some ([(name, value)], rest) := by
  rw [readFields?_name hvalue]
  simp only [hmore]

theorem readFields?_cons (hvalue : readValue? n cs = some (value, more))
    (hmore : skipBlanks more = ',' :: next) (hnext : readFields? n next = some (fields, rest)) :
    readFields? (n + 1) (quote name ++ ':' :: ' ' :: cs) =
      some ((name, value) :: fields, rest) := by
  rw [readFields?_name hvalue]
  simp only [hmore, hnext, Option.map_some]

end Steps

theorem exists_toDigits_eq (n : Nat) :
    ∃ c cs, Nat.toDigits 10 n = c :: cs ∧ c.isDigit = true := by
  obtain ⟨c, cs, hcs⟩ := List.exists_cons_of_ne_nil (Nat.toDigits_ne_nil (b := 10) (n := n))
  have hmem : c ∈ Nat.toDigits 10 n := by
    rw [hcs]
    exact List.mem_cons_self
  exact ⟨c, cs, hcs, Nat.isDigit_of_mem_toDigits (by decide) (by decide) hmem⟩

theorem isBlank_of_isDigit {c : Char} (hc : c.isDigit = true) : isBlank c = false := by
  refine Bool.eq_false_iff.2 fun hblank => ?_
  simp only [isBlank, Bool.or_eq_true, decide_eq_true_eq] at hblank
  obtain ((rfl | rfl) | rfl) | rfl := hblank <;> exact absurd hc (by decide)

/-- What is written begins with a character that counts and closes nothing. -/
theorem exists_write_eq (json : Json) (depth : Nat) :
    ∃ c cs, json.write depth = c :: cs ∧ isBlank c = false ∧ c ≠ ']' := by
  cases json with
  | text t => exact ⟨'"', _, by rw [write, quote, List.cons_append], by decide, by decide⟩
  | count n =>
      obtain ⟨c, cs, hcs, hdigit⟩ := exists_toDigits_eq n
      refine ⟨c, cs, by rw [write, hcs], isBlank_of_isDigit hdigit, ?_⟩
      rintro rfl
      exact absurd hdigit (by decide)
  | list items =>
      cases items with
      | nil => exact ⟨'[', _, by rw [write], by decide, by decide⟩
      | cons item items =>
          exact ⟨'[', _, by rw [write]; rfl, by decide, by decide⟩
  | record fields =>
      cases fields with
      | nil => exact ⟨'\x7b', _, by rw [write], by decide, by decide⟩
      | cons field fields =>
          exact ⟨'\x7b', _, by rw [write]; rfl, by decide, by decide⟩

theorem skipBlanks_write (json : Json) (depth : Nat) (rest : List Char) :
    skipBlanks (json.write depth ++ rest) = json.write depth ++ rest := by
  obtain ⟨c, cs, hcs, hblank, -⟩ := exists_write_eq json depth
  rw [hcs, List.cons_append, skipBlanks_cons hblank]

/-- The items of a list, from the first one on. -/
def itemsText (depth : Nat) : List Json → List Char
  | [] => []
  | item :: items => item.write depth ++ writeItems depth items

/-- The fields of a record, from the first one on. -/
def fieldsText (depth : Nat) : List (String × Json) → List Char
  | [] => []
  | (name, value) :: fields =>
    quote name ++ ':' :: ' ' :: (value.write depth ++ writeFields depth fields)

theorem writeItems_cons (depth : Nat) (item : Json) (items : List Json) :
    writeItems depth (item :: items) =
      ',' :: (newLine depth ++ itemsText depth (item :: items)) := by
  rw [writeItems, itemsText, List.cons_append, List.cons_append, List.append_assoc]

theorem writeFields_cons (depth : Nat) (field : String × Json) (fields : List (String × Json)) :
    writeFields depth (field :: fields) =
      ',' :: (newLine depth ++ fieldsText depth (field :: fields)) := by
  obtain ⟨name, value⟩ := field
  simp [writeFields, fieldsText]

theorem write_list_cons (depth : Nat) (item : Json) (items : List Json) (rest : List Char) :
    (list (item :: items)).write depth ++ rest =
      '[' :: (newLine (depth + 1) ++ (itemsText (depth + 1) (item :: items) ++
        (newLine depth ++ ']' :: rest))) := by
  simp [write, itemsText]

theorem write_record_cons (depth : Nat) (field : String × Json) (fields : List (String × Json))
    (rest : List Char) : (record (field :: fields)).write depth ++ rest =
      '\x7b' :: (newLine (depth + 1) ++ (fieldsText (depth + 1) (field :: fields) ++
        (newLine depth ++ '\x7d' :: rest))) := by
  obtain ⟨name, value⟩ := field
  simp [write, fieldsText]

theorem readValue?_of_isDigit {n : Nat} {c : Char} (hc : c.isDigit = true) (cs : List Char) :
    readValue? (n + 1) (c :: cs) =
      (readCount? (c :: cs)).map fun (number, rest) => (.count number, rest) := by
  rw [readValue?, skipBlanks_cons (isBlank_of_isDigit hc)]
  split
  · next heq => exact absurd hc (by rw [(List.cons.inj heq).1]; decide)
  · next heq => exact absurd hc (by rw [(List.cons.inj heq).1]; decide)
  · next heq => exact absurd hc (by rw [(List.cons.inj heq).1]; decide)
  · rfl

theorem readValue?_list {n : Nat} {cs rest : List Char} {items : List Json}
    (hcs : skipBlanks cs = cs) (hopen : cs.head? ≠ some ']')
    (hitems : readItems? n cs = some (items, rest)) (depth : Nat) :
    readValue? (n + 1) ('[' :: (newLine depth ++ cs)) = some (.list items, rest) := by
  rw [readValue?, skipBlanks_cons (by decide)]
  simp only [skipBlanks_newLine, hcs]
  split
  · exact absurd rfl hopen
  · rw [hitems]
    rfl

theorem readValue?_record {n : Nat} {cs rest : List Char} {fields : List (String × Json)}
    (hcs : skipBlanks cs = cs) (hopen : cs.head? ≠ some '\x7d')
    (hfields : readFields? n cs = some (fields, rest)) (depth : Nat) :
    readValue? (n + 1) ('\x7b' :: (newLine depth ++ cs)) = some (.record fields, rest) := by
  rw [readValue?, skipBlanks_cons (by decide)]
  simp only [skipBlanks_newLine, hcs]
  split
  · exact absurd rfl hopen
  · rw [hfields]
    rfl

mutual

/-- A part of a document is read back, as long as no digit follows it. -/
theorem readValue?_write : (json : Json) → ∀ (depth : Nat) {n : Nat} {rest : List Char},
    json.size ≤ n → (∀ c ∈ rest.head?, c.isDigit = false) →
    readValue? n (json.write depth ++ rest) = some (json, rest)
  | text t, depth, n + 1, rest, _, _ => by
    obtain ⟨cs, hcs, hread⟩ := readBody?_quote t rest
    rw [write, hcs, readValue?, skipBlanks_cons (by decide)]
    simp only [hread, Option.map_some, String.ofList_toList]
  | count m, depth, n + 1, rest, _, hrest => by
    obtain ⟨c, cs, hcs, hdigit⟩ := exists_toDigits_eq m
    rw [write, hcs, List.cons_append, readValue?_of_isDigit hdigit, ← List.cons_append, ← hcs,
      readCount?_toDigits m hrest, Option.map_some]
  | list [], depth, n + 1, rest, _, _ => by
    rw [readValue?, skipBlanks_write, write]
    rfl
  | list (item :: items), depth, n + 1, rest, hn, _ => by
    rw [size] at hn
    have hitems := readItems?_itemsText (item :: items) (depth + 1) depth (n := n) rest
      (List.cons_ne_nil _ _) (by omega)
    obtain ⟨c, cs, hcs, -, hclose⟩ := exists_write_eq item (depth + 1)
    rw [write_list_cons]
    refine readValue?_list ?_ ?_ hitems (depth + 1)
    · rw [itemsText, List.append_assoc, skipBlanks_write]
    · rw [itemsText, hcs]
      exact fun h => hclose (Option.some.inj h)
  | record [], depth, n + 1, rest, _, _ => by
    rw [readValue?, skipBlanks_write, write]
    rfl
  | record (field :: fields), depth, n + 1, rest, hn, _ => by
    rw [size] at hn
    have hfields := readFields?_fieldsText (field :: fields) (depth + 1) depth (n := n) rest
      (List.cons_ne_nil _ _) (by omega)
    rw [write_record_cons]
    obtain ⟨name, value⟩ := field
    refine readValue?_record ?_ ?_ hfields (depth + 1)
    · exact skipBlanks_cons (by decide) _
    · exact fun h => absurd (Option.some.inj h) (by decide)
  | list (_ :: _), _, 0, _, hn, _ | record (_ :: _), _, 0, _, hn, _ => by
    simp [size] at hn

/-- The items of a list are read back, from the first one on. -/
theorem readItems?_itemsText : (items : List Json) → ∀ (depth outer : Nat) {n : Nat}
    (rest : List Char), items ≠ [] → sizeOfItems items ≤ n →
    readItems? n (itemsText depth items ++ (newLine outer ++ ']' :: rest)) = some (items, rest)
  | item :: items, depth, outer, n + 1, rest, _, hn => by
    rw [sizeOfItems] at hn
    rw [itemsText, List.append_assoc]
    have hitem {rest : List Char} (hrest : ∀ c ∈ rest.head?, c.isDigit = false) :=
      readValue?_write item depth (n := n) (by omega) hrest
    cases items with
    | nil =>
        rw [writeItems, List.nil_append]
        refine readItems?_last (hitem (by simp [newLine])) ?_
        rw [skipBlanks_newLine, skipBlanks_cons (by decide)]
    | cons next items =>
        have hitems := readItems?_itemsText (next :: items) depth outer (n := n) rest
          (List.cons_ne_nil _ _) (by omega)
        rw [writeItems_cons, List.cons_append, List.append_assoc]
        refine readItems?_cons (hitem (by simp)) (skipBlanks_cons (by decide) _) ?_
        rw [readItems?_newLine, hitems]
  | _ :: _, _, _, 0, _, _, hn => by
    simp [sizeOfItems] at hn

/-- The fields of a record are read back, from the first one on. -/
theorem readFields?_fieldsText : (fields : List (String × Json)) → ∀ (depth outer : Nat) {n : Nat}
    (rest : List Char), fields ≠ [] → sizeOfFields fields ≤ n →
    readFields? n (fieldsText depth fields ++ (newLine outer ++ '\x7d' :: rest)) =
      some (fields, rest)
  | (name, value) :: fields, depth, outer, n + 1, rest, _, hn => by
    rw [sizeOfFields] at hn
    rw [fieldsText, List.append_assoc, List.cons_append, List.cons_append, List.append_assoc]
    have hvalue {rest : List Char} (hrest : ∀ c ∈ rest.head?, c.isDigit = false) :=
      readValue?_write value depth (n := n) (by omega) hrest
    cases fields with
    | nil =>
        rw [writeFields, List.nil_append]
        refine readFields?_last (hvalue (by simp [newLine])) ?_
        rw [skipBlanks_newLine, skipBlanks_cons (by decide)]
    | cons next fields =>
        have hfields := readFields?_fieldsText (next :: fields) depth outer (n := n) rest
          (List.cons_ne_nil _ _) (by omega)
        rw [writeFields_cons, List.cons_append, List.append_assoc]
        refine readFields?_cons (hvalue (by simp)) (skipBlanks_cons (by decide) _) ?_
        rw [readFields?_newLine, hfields]
  | _ :: _, _, _, 0, _, _, hn => by
    simp [sizeOfFields] at hn

end

mutual

/-- The fuel is bounded by the length of what is written. -/
theorem size_le_length : (json : Json) → ∀ depth, json.size ≤ (json.write depth).length
  | text t, depth => by
    rw [size, write, quote, List.cons_append, List.length_cons]
    omega
  | count n, depth => by
    rw [size, write]
    exact Nat.length_toDigits_pos
  | list [], depth => by
    rw [size, sizeOfItems, write]
    exact Nat.le_of_ble_eq_true rfl
  | list (item :: items), depth => by
    have hitem := size_le_length item (depth + 1)
    have hitems := sizeOfItems_le_length items (depth + 1)
    simp only [size, sizeOfItems, write, newLine, List.length_cons, List.length_append]
    omega
  | record [], depth => by
    rw [size, sizeOfFields, write]
    exact Nat.le_of_ble_eq_true rfl
  | record ((name, value) :: fields), depth => by
    have hvalue := size_le_length value (depth + 1)
    have hfields := sizeOfFields_le_length fields (depth + 1)
    simp only [size, sizeOfFields, write, newLine, List.length_cons, List.length_append]
    omega

theorem sizeOfItems_le_length : (items : List Json) → ∀ depth,
    sizeOfItems items ≤ (writeItems depth items).length
  | [], _ => Nat.le_refl 0
  | item :: items, depth => by
    have hitem := size_le_length item depth
    have hitems := sizeOfItems_le_length items depth
    simp only [sizeOfItems, writeItems, List.length_cons, List.length_append]
    omega

theorem sizeOfFields_le_length : (fields : List (String × Json)) → ∀ depth,
    sizeOfFields fields ≤ (writeFields depth fields).length
  | [], _ => Nat.le_refl 0
  | (name, value) :: fields, depth => by
    have hvalue := size_le_length value depth
    have hfields := sizeOfFields_le_length fields depth
    simp only [sizeOfFields, writeFields, List.length_cons, List.length_append]
    omega

end

/-- A document on lines of its own is that document and nothing else. -/
theorem read?_render (json : Json) : read? (json.render ++ "\n") = some json := by
  have hchars : (json.render ++ "\n").toList = json.write 0 ++ ['\n'] := by
    rw [String.toList_append, render, String.toList_ofList]
    rfl
  have hfuel : json.size ≤ (json.render ++ "\n").toList.length + 1 := by
    have hsize := json.size_le_length 0
    rw [hchars, List.length_append]
    omega
  have hread : readValue? ((json.render ++ "\n").toList.length + 1) (json.render ++ "\n").toList =
      some (json, ['\n']) := by
    rw [hchars] at hfuel ⊢
    exact readValue?_write json 0 hfuel (by simp)
  rw [read?, hread]
  rfl

/-- The reader knows escapes that nothing here writes, and takes no text with anything beside its
document. -/
example : (read? "[\"\\u00e9\\ud83d\\ude00\\/\", 10]").map render =
      some (render (.list [.text "é😀/", .count 10])) ∧
    (read? "1 2").isNone ∧ (read? "[1,]").isNone ∧ (read? "01").isNone := by
  decide +kernel

end StructMatch.Console.Json
