import StructMatch.Proofs.Match.Registration
import StructMatch.Proofs.Text.Line
import StructMatch.Proofs.Text.Literal
import StructMatch.Sample.Beans
import StructMatch.Text.Escape

/-!
# Simple names of types

The full name of a type is that of its modules, its own name and its arguments between angle
brackets.  The arguments are names of types again, or put together from them with other signs, as
`&T`, `(S, T)`, `[T; 2]` and `fn(S) -> T` are.  So separators also stand inside the angle brackets.

The simple name is cut at the last separator wherever it stands.  That is the own name of the type,
with its arguments, exactly if none of the arguments lies in a module: `simple_own_iff`.  Otherwise
the cut is made inside the arguments, and what is left is the end of one of them.
-/

namespace StructMatch

/-- What holds of two texts put together if it holds of both holds of any number of them. -/
theorem flatMap_induction {P : List Char → Prop} (hnil : P [])
    (happend : ∀ {front back}, P front → P back → P (front ++ back))
    {spell : List Char → List Char} {texts : List (List Char)}
    (h : ∀ text ∈ texts, P (spell text)) : P (texts.flatMap spell) := by
  induction texts with
  | nil => exact hnil
  | cons text texts ih =>
      obtain ⟨htext, htexts⟩ := List.forall_mem_cons.1 h
      exact happend htext (ih htexts)

/-! ## Angle brackets -/

/-- Whether a character neither is a bracket nor quotes one. -/
def isUnbracketed (c : Char) : Bool := c ≠ '<' && c ≠ '>' && c ≠ '\''

/-- A text in which the angle brackets are closed in order.  Those of an arrow and those that are
quoted characters do not count. -/
inductive Balanced : List Char → Prop
  | nil : Balanced []
  | char {c : Char} {cs : List Char} (plain : isUnbracketed c = true) (rest : Balanced cs) :
      Balanced (c :: cs)
  | arrow {cs : List Char} (rest : Balanced cs) : Balanced ('-' :: '>' :: cs)
  | quoted (c : Char) {cs : List Char} (rest : Balanced cs) :
      Balanced ((Text.quoteChar c).toList ++ cs)
  | brackets {inner cs : List Char} (within : Balanced inner) (rest : Balanced cs) :
      Balanced ('<' :: (inner ++ '>' :: cs))

namespace Balanced

variable {front back : List Char}

theorem append (hfront : Balanced front) (hback : Balanced back) : Balanced (front ++ back) := by
  induction hfront with
  | nil => exact hback
  | char plain _ ih => exact .char plain ih
  | arrow _ ih => exact .arrow ih
  | quoted c _ ih =>
      rw [List.append_assoc]
      exact .quoted c ih
  | brackets within _ _ ih =>
      rw [List.cons_append, List.append_assoc, List.cons_append]
      exact .brackets within ih

theorem of_plain {cs : List Char} (h : cs.all isUnbracketed = true) : Balanced cs := by
  induction cs with
  | nil => exact .nil
  | cons c cs ih =>
      rw [List.all_cons, Bool.and_eq_true] at h
      exact .char h.1 (ih h.2)

/-- Where no bracket is opened, only an arrow or a quoted character has a closing one. -/
theorem notMem_close {cs : List Char} (h : Balanced cs) (hopen : '<' ∉ cs) (hdash : '-' ∉ cs)
    (hquote : '\'' ∉ cs) : '>' ∉ cs := by
  cases h with
  | nil => exact List.not_mem_nil
  | arrow => exact absurd List.mem_cons_self hdash
  | quoted c => simp [Text.quoteChar] at hquote
  | brackets => exact absurd List.mem_cons_self hopen
  | @char c _ plain rest =>
      simp only [List.mem_cons, not_or] at hopen hdash hquote ⊢
      have hclose : '>' ≠ c := by
        rintro rfl
        exact absurd plain (by decide)
      exact ⟨hclose, rest.notMem_close hopen.2 hdash.2 hquote.2⟩

end Balanced

/-! ## The last separator -/

section Separator

variable {c : Char} {cs front back rest : List Char}

/-- A separator begins a text that begins with two colons. -/
theorem afterStart?_separator_eq_none_iff :
    Text.afterStart? [':', ':'] (c :: cs) = none ↔ (c = ':' → cs.head? ≠ some ':') := by
  cases cs with
  | nil => by_cases hc : ':' = c <;> simp [Text.afterStart?, hc, eq_comm]
  | cons d cs =>
      by_cases hc : ':' = c <;> by_cases hd : ':' = d <;> simp_all [Text.afterStart?, eq_comm]

theorem afterLastSeparator?_cons_eq_none_iff : afterLastSeparator? (c :: cs) = none ↔
    afterLastSeparator? cs = none ∧ (c = ':' → cs.head? ≠ some ':') := by
  rw [afterLastSeparator?, Option.or_eq_none_iff, afterStart?_separator_eq_none_iff]

theorem afterLastSeparator?_cons_of_ne (hc : c ≠ ':') :
    afterLastSeparator? (c :: cs) = afterLastSeparator? cs := by
  rw [afterLastSeparator?, afterStart?_separator_eq_none_iff.2 fun h => absurd h hc, Option.or_none]

theorem afterLastSeparator?_append_of_some (h : afterLastSeparator? back = some rest) :
    afterLastSeparator? (front ++ back) = some rest := by
  induction front with
  | nil => exact h
  | cons c front ih => rw [List.cons_append, afterLastSeparator?, ih, Option.some_or]

/-- There is no separator after the last one. -/
theorem afterLastSeparator?_rest (h : afterLastSeparator? cs = some rest) :
    afterLastSeparator? rest = none := by
  induction cs with
  | nil => exact absurd h (Option.some_ne_none rest).symm
  | cons c cs ih =>
      rw [afterLastSeparator?, Option.or_eq_some_iff] at h
      obtain h | ⟨hnone, hstart⟩ := h
      · exact ih h
      · -- the separator begins the text, whose tail is a colon and then the rest
        have htail : cs = ':' :: rest := (List.cons.inj (Text.afterStart?_eq_some_iff.1 hstart)).2
        rw [htail, afterLastSeparator?_cons_eq_none_iff] at hnone
        exact hnone.1

/-- A text that has no separator and makes none with what stands before it. -/
structure Sealed (cs : List Char) : Prop where
  whole : afterLastSeparator? cs = none
  first : cs.head? ≠ some ':'

theorem Sealed.of_notMem (h : ':' ∉ cs) : Sealed cs := by
  refine ⟨?_, fun hhead => h (List.mem_of_head? hhead)⟩
  induction cs with
  | nil => rfl
  | cons c cs ih =>
      rw [List.mem_cons, not_or] at h
      exact afterLastSeparator?_cons_eq_none_iff.2 ⟨ih h.2, fun hc => absurd hc.symm h.1⟩

/-- A separator across the border would need a colon after it. -/
theorem afterLastSeparator?_append_eq_none (hfront : afterLastSeparator? front = none)
    (hback : Sealed back) : afterLastSeparator? (front ++ back) = none := by
  induction front with
  | nil => exact hback.whole
  | cons c front ih =>
      obtain ⟨hwhole, hnext⟩ := afterLastSeparator?_cons_eq_none_iff.1 hfront
      refine afterLastSeparator?_cons_eq_none_iff.2 ⟨ih hwhole, fun hc => ?_⟩
      cases front with
      | nil => exact hback.first
      | cons d front => exact hnext hc

theorem Sealed.append (hfront : Sealed front) (hback : Sealed back) : Sealed (front ++ back) := by
  refine ⟨afterLastSeparator?_append_eq_none hfront.whole hback, ?_⟩
  cases front with
  | nil => exact hback.first
  | cons c front => exact hfront.first

/-- What is sealed goes on with what comes after the last separator. -/
theorem afterLastSeparator?_append_sealed (hfront : afterLastSeparator? front = some rest)
    (hback : Sealed back) : afterLastSeparator? (front ++ back) = some (rest ++ back) := by
  induction front with
  | nil => exact absurd hfront (Option.some_ne_none rest).symm
  | cons c front ih =>
      rw [afterLastSeparator?, Option.or_eq_some_iff] at hfront
      rw [List.cons_append, afterLastSeparator?]
      obtain h | ⟨hnone, hstart⟩ := hfront
      · rw [ih h, Option.some_or]
      · rw [afterLastSeparator?_append_eq_none hnone hback, Option.none_or, ← List.cons_append,
          Text.afterStart?_eq_some_iff.1 hstart, List.append_assoc]
        exact Text.afterStart?_append [':', ':'] (rest ++ back)

end Separator

/-! ## Full names -/

/-- A piece of a type name that is no path: a word, a number or signs. -/
structure Fragment where
  chars : List Char
  balanced : Balanced chars
  noColon : ':' ∉ chars

/-- Whether a character may stand in a fragment without angle brackets and quotes. -/
def isPlainSign (c : Char) : Bool := isUnbracketed c && c ≠ ':'

/-- A fragment without angle brackets and quotes. -/
def Fragment.ofPlain (text : String) (h : text.toList.all isPlainSign = true := by decide) :
    Fragment where
  chars := text.toList
  balanced := .of_plain (List.all_eq_true.2 fun c hc =>
    (Bool.and_eq_true_iff.1 (List.all_eq_true.1 h c hc)).1)
  noColon hmem := absurd (List.all_eq_true.1 h ':' hmem) (by decide)

/-- The full name of a type.  What is no path, such as a reference, a tuple or a function, is put
together from signs and from the names of the types in it. -/
inductive TypeName where
  /-- A type in a module, with its arguments.  A module may be a block of methods, which goes by the
  name of a type. -/
  | path (modules : List TypeName) (name : Fragment) (arguments : List TypeName)
  | signs (text : Fragment)
  /-- A character that is an argument. -/
  | character (c : Char)
  | join (first second : TypeName)

namespace TypeName

/-- Arguments between angle brackets, if there are any. -/
def argumentList : List (List Char) → List Char
  | [] => []
  | first :: others => '<' :: (first ++ others.flatMap ([',', ' '] ++ ·) ++ ['>'])

mutual

/-- The characters of a full name. -/
def chars : TypeName → List Char
  | path modules name arguments =>
    (allChars modules).flatMap (· ++ [':', ':']) ++ name.chars ++ argumentList (allChars arguments)
  | signs text => text.chars
  | character c => (Text.quoteChar c).toList
  | join first second => first.chars ++ second.chars

/-- The characters of several full names. -/
def allChars : List TypeName → List (List Char)
  | [] => []
  | name :: names => name.chars :: allChars names

end

mutual

/-- Whether a type that lies in a module occurs in a full name. -/
def namesModule : TypeName → Bool
  | path modules _ arguments => !modules.isEmpty || anyNamesModule arguments
  | signs _ => false
  | character _ => false
  | join first second => first.namesModule || second.namesModule

/-- Whether a type that lies in a module occurs in one of several full names. -/
def anyNamesModule : List TypeName → Bool
  | [] => false
  | name :: names => name.namesModule || anyNamesModule names

end

/-- The text of a full name. -/
def text (type : TypeName) : String := String.ofList type.chars

/-- The own name of a type with its arguments. -/
def ownText (name : Fragment) (arguments : List TypeName) : String :=
  String.ofList (name.chars ++ argumentList (allChars arguments))

theorem allChars_eq (names : List TypeName) : allChars names = names.map chars := by
  induction names with
  | nil => rfl
  | cons name names ih => rw [allChars, ih, List.map_cons]

theorem anyNamesModule_eq (names : List TypeName) :
    anyNamesModule names = names.any namesModule := by
  induction names with
  | nil => rfl
  | cons name names ih => rw [anyNamesModule, ih, List.any_cons]

/-- The angle brackets of an argument list are closed if those in the arguments are. -/
theorem balanced_argumentList {arguments : List (List Char)}
    (h : ∀ argument ∈ arguments, Balanced argument) : Balanced (argumentList arguments) := by
  cases arguments with
  | nil => exact .nil
  | cons first others =>
      obtain ⟨hfirst, hothers⟩ := List.forall_mem_cons.1 h
      exact .brackets (hfirst.append (flatMap_induction .nil .append fun other hother =>
        (Balanced.of_plain (by decide)).append (hothers other hother))) .nil

theorem sealed_others {others : List (List Char)} (h : ∀ other ∈ others, Sealed other) :
    Sealed (others.flatMap ([',', ' '] ++ ·)) :=
  flatMap_induction (.of_notMem List.not_mem_nil) .append fun other hother =>
    (Sealed.of_notMem (by decide)).append (h other hother)

theorem sealed_argumentList {arguments : List (List Char)}
    (h : ∀ argument ∈ arguments, Sealed argument) : Sealed (argumentList arguments) := by
  cases arguments with
  | nil => exact .of_notMem List.not_mem_nil
  | cons first others =>
      obtain ⟨hfirst, hothers⟩ := List.forall_mem_cons.1 h
      have hopen : Sealed ['<'] := .of_notMem (by decide)
      exact hopen.append ((hfirst.append (sealed_others hothers)).append (.of_notMem (by decide)))

/-- No escape is written with a colon. -/
theorem notMem_escapeChar {c : Char} (hc : c ≠ ':') (quotes : Text.Quotes) :
    ':' ∉ Text.escapeChar quotes c := by
  have hhex : ':' ∉ Text.hexEscape c := by
    unfold Text.hexEscape
    intro hmem
    simp only [List.mem_append] at hmem
    obtain (hmem | hmem) | hmem := hmem
    · exact absurd hmem (by decide)
    · exact absurd (Text.isHexDigit_of_mem_toDigits hmem) (by decide)
    · exact absurd hmem (by decide)
  have hself : ':' ∉ [c] := fun hmem => hc (List.mem_singleton.1 hmem).symm
  by_cases hshort : c ∈ ['\x00', '\t', '\r', '\n', '\\', '"', '\'']
  · obtain ⟨single, double⟩ := quotes
    simp only [List.mem_cons, List.not_mem_nil, or_false] at hshort
    rcases hshort with rfl | rfl | rfl | rfl | rfl | rfl | rfl <;> cases single <;> cases double <;>
      decide
  · simp only [List.mem_cons, List.not_mem_nil, or_false, not_or] at hshort
    obtain ⟨hnull, htab, hreturn, hfeed, hslash, hdouble, hsingle⟩ := hshort
    rw [Text.escapeChar, if_neg hnull, if_neg htab, if_neg hreturn, if_neg hfeed, if_neg hslash,
      if_neg hdouble, if_neg hsingle]
    split
    · exact hhex
    · exact hself

theorem sealed_quoteChar (c : Char) : Sealed (Text.quoteChar c).toList := by
  by_cases hc : c = ':'
  · rw [hc]
    exact ⟨by decide, by decide⟩
  · refine .of_notMem ?_
    rw [Text.quoteChar, String.toList_ofList]
    simp [notMem_escapeChar hc]

mutual

/-- The angle brackets of a full name are closed. -/
theorem balanced_chars : (type : TypeName) → Balanced type.chars
  | path modules name arguments => by
    rw [chars]
    have hmodules : Balanced ((allChars modules).flatMap (· ++ [':', ':'])) :=
      flatMap_induction .nil .append fun module hmodule =>
        (balanced_allChars modules module hmodule).append (.of_plain (by decide))
    exact (hmodules.append name.balanced).append
      (balanced_argumentList (balanced_allChars arguments))
  | signs text => text.balanced
  | character c => by
    have hquoted := Balanced.quoted c .nil
    rwa [List.append_nil] at hquoted
  | join first second => (balanced_chars first).append (balanced_chars second)

theorem balanced_allChars : (names : List TypeName) → ∀ cs ∈ allChars names, Balanced cs
  | [] => fun _ hcs => absurd hcs List.not_mem_nil
  | name :: names => List.forall_mem_cons.2 ⟨balanced_chars name, balanced_allChars names⟩

end

mutual

/-- Without types in modules there are no separators. -/
theorem sealed_chars : (type : TypeName) → type.namesModule = false → Sealed type.chars
  | path modules name arguments, h => by
    rw [namesModule, Bool.or_eq_false_iff, Bool.not_eq_false', List.isEmpty_iff] at h
    rw [chars, h.1]
    exact (Sealed.of_notMem name.noColon).append
      (sealed_argumentList (sealed_allChars arguments h.2))
  | signs text, _ => .of_notMem text.noColon
  | character c, _ => sealed_quoteChar c
  | join first second, h => by
    rw [namesModule, Bool.or_eq_false_iff] at h
    exact (sealed_chars first h.1).append (sealed_chars second h.2)

theorem sealed_allChars : (names : List TypeName) → anyNamesModule names = false →
    ∀ cs ∈ allChars names, Sealed cs
  | [], _ => fun _ hcs => absurd hcs List.not_mem_nil
  | name :: names, h => by
    rw [anyNamesModule, Bool.or_eq_false_iff] at h
    exact List.forall_mem_cons.2 ⟨sealed_chars name h.1, sealed_allChars names h.2⟩

end

/-! ## What the last separator leaves -/

/-- A separator stands after the modules, if there are any. -/
theorem afterLastSeparator?_modules {modules : List TypeName} (h : modules ≠ []) :
    afterLastSeparator? ((allChars modules).flatMap (· ++ [':', ':'])) = some [] := by
  obtain ⟨before, last, rfl⟩ := (List.eq_nil_or_concat modules).resolve_left h
  rw [allChars_eq, List.concat_eq_append, List.map_append, List.map_singleton,
    List.flatMap_append, List.flatMap_singleton]
  exact afterLastSeparator?_append_of_some (afterLastSeparator?_append_of_some rfl)

/-- What is left of a list of arguments begins with what is left of the last argument that names a
module. -/
def LeftOfArgument (names : List TypeName) (list : List Char) : Prop :=
  ∃ argument ∈ names, argument.namesModule = true ∧ ∃ rest tail,
    afterLastSeparator? argument.chars = some rest ∧ afterLastSeparator? list = some (rest ++ tail)

theorem LeftOfArgument.cons {names : List TypeName} {list : List Char}
    (h : LeftOfArgument names list) (name : TypeName) (front : List Char) :
    LeftOfArgument (name :: names) (front ++ list) := by
  obtain ⟨argument, hargument, hnames, rest, tail, hrest, hlist⟩ := h
  exact ⟨argument, List.mem_cons_of_mem _ hargument, hnames, rest, tail, hrest,
    afterLastSeparator?_append_of_some hlist⟩

theorem LeftOfArgument.append {names : List TypeName} {list back : List Char}
    (h : LeftOfArgument names list) (hback : Sealed back) :
    LeftOfArgument names (list ++ back) := by
  obtain ⟨argument, hargument, hnames, rest, tail, hrest, hlist⟩ := h
  refine ⟨argument, hargument, hnames, rest, tail ++ back, hrest, ?_⟩
  rw [afterLastSeparator?_append_sealed hlist hback, List.append_assoc]

theorem LeftOfArgument.argumentList {names : List TypeName}
    (h : LeftOfArgument names ((allChars names).flatMap ([',', ' '] ++ ·))) :
    LeftOfArgument names (argumentList (allChars names)) := by
  cases names with
  | nil =>
      obtain ⟨argument, hargument, -⟩ := h
      exact absurd hargument List.not_mem_nil
  | cons name names =>
      rw [allChars, List.flatMap_cons] at h
      obtain ⟨argument, hargument, hnames, rest, tail, hrest, hlist⟩ := h
      -- the list begins with an angle bracket in place of a comma, and ends with another one
      have hbracket : afterLastSeparator?
          ('<' :: (name.chars ++ (allChars names).flatMap ([',', ' '] ++ ·))) =
            some (rest ++ tail) := by
        rw [afterLastSeparator?_cons_of_ne (by decide)]
        simp only [List.cons_append, List.nil_append] at hlist
        rwa [afterLastSeparator?_cons_of_ne (by decide),
          afterLastSeparator?_cons_of_ne (by decide)] at hlist
      have hclosed : LeftOfArgument (name :: names) _ :=
        ⟨argument, hargument, hnames, rest, tail, hrest, hbracket⟩
      exact hclosed.append (.of_notMem (by decide : ':' ∉ ['>']))

mutual

/-- A full name with a type in a module has a separator. -/
theorem exists_afterSeparator : (type : TypeName) → type.namesModule = true →
    ∃ rest, afterLastSeparator? type.chars = some rest
  | path modules name arguments, h => by
    rw [chars]
    by_cases harguments : anyNamesModule arguments = true
    · obtain ⟨_, _, _, _, _, _, hlist⟩ := (leftOfOthers arguments harguments).argumentList
      exact ⟨_, afterLastSeparator?_append_of_some hlist⟩
    · rw [namesModule, Bool.or_eq_true, or_iff_left harguments, Bool.not_eq_true',
        List.isEmpty_eq_false_iff] at h
      have hown := (Sealed.of_notMem name.noColon).append
        (sealed_argumentList (sealed_allChars arguments (Bool.eq_false_of_not_eq_true harguments)))
      rw [List.append_assoc]
      exact ⟨_, afterLastSeparator?_append_sealed (afterLastSeparator?_modules h) hown⟩
  | join first second, h => by
    rw [namesModule, Bool.or_eq_true] at h
    rw [chars]
    by_cases hsecond : second.namesModule = true
    · obtain ⟨rest, hrest⟩ := exists_afterSeparator second hsecond
      exact ⟨rest, afterLastSeparator?_append_of_some hrest⟩
    · obtain ⟨rest, hrest⟩ := exists_afterSeparator first (h.resolve_right hsecond)
      exact ⟨_, afterLastSeparator?_append_sealed hrest
        (sealed_chars second (Bool.eq_false_of_not_eq_true hsecond))⟩

theorem leftOfOthers : (names : List TypeName) → anyNamesModule names = true →
    LeftOfArgument names ((allChars names).flatMap ([',', ' '] ++ ·))
  | name :: names, h => by
    rw [anyNamesModule, Bool.or_eq_true] at h
    rw [allChars, List.flatMap_cons]
    by_cases hnames : anyNamesModule names = true
    · exact (leftOfOthers names hnames).cons name _
    · have hname := h.resolve_right hnames
      obtain ⟨rest, hrest⟩ := exists_afterSeparator name hname
      exact ⟨name, List.mem_cons_self, hname, rest, _, hrest,
        afterLastSeparator?_append_sealed (afterLastSeparator?_append_of_some hrest)
          (sealed_others (sealed_allChars names (Bool.eq_false_of_not_eq_true hnames)))⟩

end

section Path

variable (modules : List TypeName) (name : Fragment) (arguments : List TypeName)

theorem toList_ownText :
    (ownText name arguments).toList = name.chars ++ argumentList (allChars arguments) :=
  String.toList_ofList

theorem toList_text_path : (path modules name arguments).text.toList =
    (allChars modules).flatMap (· ++ [':', ':']) ++ (ownText name arguments).toList := by
  rw [toList_ownText, ← List.append_assoc]
  exact String.toList_ofList

theorem balanced_ownText : Balanced (ownText name arguments).toList := by
  rw [toList_ownText]
  exact name.balanced.append (balanced_argumentList (balanced_allChars arguments))

variable {arguments}

/-- If no argument lies in a module, the last separator is the one before the own name. -/
theorem simple_eq_own (h : anyNamesModule arguments = false) :
    simpleTypeName (path modules name arguments).text = ownText name arguments := by
  have hown : Sealed (ownText name arguments).toList := by
    rw [toList_ownText]
    exact (Sealed.of_notMem name.noColon).append
      (sealed_argumentList (sealed_allChars arguments h))
  by_cases hmodules : modules = []
  · subst hmodules
    have htext : (path [] name arguments).text = ownText name arguments :=
      String.toList_injective (toList_text_path [] name arguments)
    rw [simpleTypeName, htext, hown.whole, Option.map_none, Option.getD_none]
  · rw [simpleTypeName, toList_text_path,
      afterLastSeparator?_append_sealed (afterLastSeparator?_modules hmodules) hown,
      List.nil_append, Option.map_some, String.ofList_toList, Option.getD_some]

/-- If an argument lies in a module, the last separator is in an argument. -/
theorem exists_simple_eq (h : anyNamesModule arguments = true) :
    simpleTypeName (path modules name arguments).text ≠ ownText name arguments ∧
      ∃ argument ∈ arguments, argument.namesModule = true ∧ ∃ tail,
        simpleTypeName (path modules name arguments).text =
          simpleTypeName argument.text ++ tail := by
  obtain ⟨argument, hargument, hnames, rest, tail, hrest, hlist⟩ :=
    (leftOfOthers arguments h).argumentList
  have hown : afterLastSeparator? (ownText name arguments).toList = some (rest ++ tail) := by
    rw [toList_ownText]
    exact afterLastSeparator?_append_of_some hlist
  have hsimple : simpleTypeName (path modules name arguments).text =
      String.ofList (rest ++ tail) := by
    rw [simpleTypeName, toList_text_path, afterLastSeparator?_append_of_some hown]
    rfl
  have hargumentSimple : simpleTypeName argument.text = String.ofList rest := by
    rw [simpleTypeName, text, String.toList_ofList, hrest]
    rfl
  refine ⟨fun heq => ?_, argument, hargument, hnames, String.ofList tail, ?_⟩
  · -- there is a separator in the own name with its arguments, but none after the last one
    rw [← heq, hsimple, String.toList_ofList] at hown
    rw [afterLastSeparator?_rest hown] at hown
    exact Option.some_ne_none _ hown.symm
  · rw [hsimple, hargumentSimple, String.ofList_append]

end Path

/-- The simple name of a type in modules is its own name with its arguments exactly if no argument
lies in a module itself.  If one does, what is left begins with the simple name of an argument, and
that is what a matcher for the type says it expects an instance of. -/
theorem simple_own_iff (modules : List TypeName) (name : Fragment) (arguments : List TypeName) :
    let full := (path modules name arguments).text
    let own := ownText name arguments
    Balanced own.toList ∧
      (simpleTypeName full = own ↔ ∀ argument ∈ arguments, argument.namesModule = false) ∧
      ((∃ argument ∈ arguments, argument.namesModule = true) → ∃ argument ∈ arguments,
        argument.namesModule = true ∧
          ∃ tail, simpleTypeName full = simpleTypeName argument.text ++ tail) ∧
      ∀ {α Code : Type} [Universe Code] (calls : List (PropertyMatcher α Code)) (d : Description),
        let registry := (Registry.empty full).registerAll calls
        (registry.toMatcher.describe d).text = d.text ++ "an instance of " ++ simpleTypeName full ++
          Registry.expectationFrom " with " registry.entries := by
  intro full own
  have hany : anyNamesModule arguments = true ↔
      ∃ argument ∈ arguments, argument.namesModule = true := by
    rw [anyNamesModule_eq, List.any_eq_true]
  have hnone : anyNamesModule arguments = false ↔
      ∀ argument ∈ arguments, argument.namesModule = false := by
    rw [anyNamesModule_eq, List.any_eq_false]
    simp only [Bool.not_eq_true]
  refine ⟨balanced_ownText name arguments, ⟨fun heq => hnone.1 ?_, fun h => ?_⟩, fun h => ?_,
    fun calls d => ?_⟩
  · rw [← Bool.not_eq_true]
    exact fun h => (exists_simple_eq modules name h).1 heq
  · exact simple_eq_own modules name (hnone.2 h)
  · exact (exists_simple_eq modules name (hany.2 h)).2
  · intro registry
    have hname : registry.typeName = simpleTypeName full :=
      Registry.typeName_registerAll _ calls
    have hdescribe : (registry.toMatcher.describe d).text = d.text ++
        ("an instance of " ++ registry.typeName ++
          Registry.expectationFrom " with " registry.entries) := rfl
    rw [hdescribe, hname, String.append_assoc, String.append_assoc, String.append_assoc]

/-- A word or signs as a full name. -/
def plain (text : String) (h : text.toList.all isPlainSign = true := by decide) : TypeName :=
  signs (.ofPlain text h)

/-- A pair of numbers, whose simple name is its own. -/
theorem simple_own_numbers :
    let own := ownText (.ofPlain "Pair") [plain "u32"]
    own = "Pair<u32>" ∧ Balanced own.toList ∧ simpleTypeName "crate::beans::Pair<u32>" = own := by
  intro own
  obtain ⟨hbalanced, hiff, -⟩ :=
    simple_own_iff [plain "crate", plain "beans"] (.ofPlain "Pair") [plain "u32"]
  refine ⟨by decide +kernel, hbalanced, ?_⟩
  have hnone : ∀ argument ∈ [plain "u32"], argument.namesModule = false := by
    intro argument hargument
    rw [List.mem_singleton.1 hargument]
    rfl
  exact hiff.2 hnone

/-- The modules of the sample structs. -/
def sampleModules : List TypeName := [plain "driver", plain "beans"]

open Sample in
/-- The sample pair of accounts.  What is left of its name is the end of that of an account. -/
theorem accountPair_misnamed :
    let arguments := [path sampleModules (.ofPlain "Account") []]
    let own := ownText (.ofPlain "Pair") arguments
    let full := (path sampleModules (.ofPlain "Pair") arguments).text
    full = Universe.typeName Bean.accountPair ∧ own = "Pair<driver::beans::Account>" ∧
      simpleTypeName full = "Account>" ∧ simpleTypeName full ≠ own ∧
      ¬ Balanced (simpleTypeName full).toList ∧
      (Registry.empty full : Registry AccountPair Kind).expectation =
        "an instance of Account>" := by
  intro arguments own full
  have hsimple : simpleTypeName full = "Account>" := by decide +kernel
  refine ⟨by decide +kernel, by decide +kernel, hsimple, ?_, ?_, ?_⟩
  · rw [hsimple]
    decide +kernel
  · rw [hsimple]
    exact fun h => h.notMem_close (by decide) (by decide) (by decide) (by decide)
  · decide +kernel

/-! ## Names of sample types -/

theorem exists_text_append {first second : String} (hfirst : ∃ type : TypeName, type.text = first)
    (hsecond : ∃ type : TypeName, type.text = second) :
    ∃ type : TypeName, type.text = first ++ second := by
  obtain ⟨type, rfl⟩ := hfirst
  obtain ⟨next, rfl⟩ := hsecond
  exact ⟨join type next, String.ofList_append⟩

theorem exists_text_plain (text : String)
    (h : text.toList.all isPlainSign = true := by decide) :
    ∃ type : TypeName, type.text = text :=
  ⟨plain text h, String.ofList_toList⟩

theorem exists_text_toString (n : Nat) : ∃ type : TypeName, type.text = toString n := by
  refine exists_text_plain _ (List.all_eq_true.2 fun c hc => ?_)
  have hdigit : c.isDigit = true := Nat.isDigit_of_mem_toDigits (by decide) (by decide)
    (Nat.toList_repr ▸ hc)
  have hsigns : ∀ sign, sign.isDigit = false → c ≠ sign := by
    rintro sign hsign rfl
    exact Bool.false_ne_true (hsign.symm.trans hdigit)
  simp [isPlainSign, isUnbracketed, hsigns]

/-- One argument between angle brackets. -/
theorem exists_text_generic {argument : String} (modules : List TypeName) (name : Fragment)
    (h : ∃ type : TypeName, type.text = argument) : ∃ type : TypeName,
      type.text = (path modules name []).text ++ "<" ++ argument ++ ">" := by
  obtain ⟨type, rfl⟩ := h
  refine ⟨path modules name [type], String.toList_injective ?_⟩
  have hempty : (ownText name []).toList = name.chars := by
    rw [toList_ownText, allChars, argumentList, List.append_nil]
  rw [toList_text_path, toList_ownText, String.toList_append, String.toList_append,
    String.toList_append, toList_text_path, hempty]
  simp [allChars, argumentList, text]

/-- The name of every plain value type is a full name if those of the declared types are. -/
theorem exists_text_typeName {Declared : Type} [Universe Declared]
    (h : ∀ d : Declared, ∃ type : TypeName, type.text = Universe.typeName d)
    (t : ValueType Declared) : ∃ type : TypeName, type.text = t.typeName := by
  induction t with
  | unit => exact exists_text_plain "()"
  | bool => exact exists_text_plain "bool"
  | char => exact exists_text_plain "char"
  | single => exact exists_text_plain "f32"
  | double => exact exists_text_plain "f64"
  | borrowedText => exact exists_text_plain "&str"
  | int signed bits =>
      refine exists_text_append (exists_text_plain _ ?_) (exists_text_toString bits)
      cases signed <;> decide
  | text =>
      have hpath : (path [plain "alloc", plain "string"] (.ofPlain "String") []).text =
          "alloc::string::String" := by decide
      exact ⟨_, hpath⟩
  | option of ih =>
      have hpath : (path [plain "core", plain "option"] (.ofPlain "Option") []).text ++ "<" =
          "core::option::Option<" := by decide
      have hgeneric := exists_text_generic [plain "core", plain "option"] (.ofPlain "Option") ih
      rwa [hpath] at hgeneric
  | list of ih =>
      have hpath : (path [plain "alloc", plain "vec"] (.ofPlain "Vec") []).text ++ "<" =
          "alloc::vec::Vec<" := by decide
      have hgeneric := exists_text_generic [plain "alloc", plain "vec"] (.ofPlain "Vec") ih
      rwa [hpath] at hgeneric
  | pair first second ih ih' =>
      have hopen := exists_text_append (exists_text_plain "(") ih
      have hcomma := exists_text_append hopen (exists_text_plain ", ")
      exact exists_text_append (exists_text_append hcomma ih') (exists_text_plain ")")
  | array of size ih =>
      have hopen := exists_text_append (exists_text_plain "[") ih
      have hcomma := exists_text_append hopen (exists_text_plain "; ")
      exact exists_text_append (exists_text_append hcomma (exists_text_toString size))
        (exists_text_plain "]")
  | declared d => exact h d

open Sample in
theorem exists_text_bean (b : Bean) : ∃ type : TypeName, type.text = Universe.typeName b := by
  cases b with
  | account => exact ⟨path sampleModules (.ofPlain "Account") [], by decide⟩
  | mode => exact ⟨path sampleModules (.ofPlain "Mode") [], by decide⟩
  | accountPair =>
      have haccount : ∃ type : TypeName, type.text = "driver::beans::Account" :=
        ⟨path sampleModules (.ofPlain "Account") [], by decide⟩
      have hpath : (path sampleModules (.ofPlain "Pair") []).text ++ "<" ++
          "driver::beans::Account" ++ ">" = Universe.typeName Bean.accountPair := by decide
      have hgeneric := exists_text_generic sampleModules (.ofPlain "Pair") haccount
      rwa [hpath] at hgeneric
  | opaqueCode => exact ⟨path sampleModules (.ofPlain "Opaque") [], by decide⟩
  | everything => exact ⟨path sampleModules (.ofPlain "Sample") [], by decide⟩
  | simplePojo => exact ⟨path sampleModules (.ofPlain "SimplePojo") [], by decide⟩
  | described => exact ⟨path sampleModules (.ofPlain "Description") [], by decide⟩
  | holder => exact ⟨path sampleModules (.ofPlain "Holder") [], by decide⟩

/-- The name of every sample type is a full name. -/
theorem exists_text_kind (kind : Sample.Kind) : ∃ type : TypeName, type.text = kind.typeName :=
  exists_text_typeName exists_text_bean kind

end TypeName

end StructMatch
