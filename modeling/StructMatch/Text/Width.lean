import StructMatch.Text.Width.Table

/-!
# Display width

How many columns a text fills in a fixed-width display.  Most characters fill one, wide ones two and
combining marks none, but some fill less or more beside others: letters that form a ligature fill
the columns of one letter, a picture with a skin tone or a sequence of joined pictures those of one
picture, and a selector after a character chooses between its narrow and its wide form.

What stands to the right of a character decides, so the text is measured from its end.
-/

namespace StructMatch.Text

open Width

/-- What stands to the right of a character, as far as its width depends on it. -/
inductive RightSide
  | plain
  | lineFeed
  /-- A picture, which may be the last of a sequence of joined ones. -/
  | picture
  | skinTone
  | flagLetter
  | flagLetters
  /-- The joiner between two pictures. -/
  | joiner
  /-- The frame of a keycap before a joiner. -/
  | joinedFrame
  /-- One flag letter, an even number of them, or an odd number above one, before a joiner. -/
  | joinedFlagLetter
  | joinedFlagPairs
  | joinedFlagPairsAndLetter
  /-- So many tags, with the tag that closes them, before a joiner. -/
  | joinedTags (count : Nat)
  | alef
  | lamed (joined : Bool)
  | ya (joined : Bool)
  | vowelAndYa
  | tifinagh (joined : Bool)
  | tifinaghJoiner
  | lisuTone
  | turkicI (joined : Bool)
  | khmerConsonant
  | kiratE
  | kiratAi
  deriving DecidableEq

/-- The form that a selector to the right of a character asks for. -/
inductive Form
  | text
  | emoji
  | wide
  deriving DecidableEq

/-- What stands to the right of a character, and the selector between the two. -/
structure Surroundings where
  right : RightSide
  form? : Option Form

namespace RightSide

/-- Whether it is the right part of a ligature of letters. -/
def isLigaturePart : RightSide → Bool
  | alef | lamed _ | ya _ | vowelAndYa | tifinagh _ | tifinaghJoiner | lisuTone | turkicI _
  | khmerConsonant | kiratE | kiratAi => true
  | _ => false

/-- The same with a joiner before it. -/
def afterJoiner : RightSide → RightSide
  | lamed _ => lamed true
  | ya _ => ya true
  | tifinagh _ => tifinagh true
  | turkicI _ => turkicI true
  | right => right

/-- What remains of it when a selector comes between. -/
def beyond (form : Form) (right : RightSide) : RightSide :=
  if right.isLigaturePart || (form = .emoji && (right = joiner || right = joinedFrame)) then right
  else plain

end RightSide

namespace Surroundings

/-- A right side without a selector. -/
def of (right : RightSide) : Surroundings := ⟨right, none⟩

/-- The surroundings with a selector before them. -/
def select (form : Form) (around : Surroundings) : Surroundings :=
  ⟨around.right.beyond form, some form⟩

/-- The surroundings without the selector, which asked for a form that the character does not
have. -/
def dropForm (around : Surroundings) : Surroundings :=
  match around.form? with
  | some .emoji => of (if around.right.isLigaturePart then around.right else .plain)
  | _ => of around.right

end Surroundings

/-- Whether the code point lies between two others. -/
def between (low high c : Nat) : Bool := low ≤ c && c ≤ high

/-- The Arabic letters that join with an alef to their right. -/
def isLam (c : Nat) : Bool :=
  c == 0x644 || between 0x6B5 0x6B8 c || c == 0x76A || c == 0x8A6 || c == 0x8C7

/-- The Arabic letters that a lam to their left joins with. -/
def isAlef (c : Nat) : Bool :=
  c == 0x622 || c == 0x623 || c == 0x625 || c == 0x627 || between 0x671 0x673 c || c == 0x675 ||
    c == 0x773 || c == 0x774 || between 0x870 0x882 c

/-- The Khmer letters that take a form below the letter before them. -/
def isKhmerConsonant (c : Nat) : Bool :=
  between 0x1780 0x1782 c || between 0x1784 0x1787 c || between 0x1789 0x178C c ||
    between 0x178E 0x1793 c || between 0x1795 0x1798 c || between 0x179B 0x179D c || c == 0x17A0 ||
    c == 0x17A2 || c == 0x17A7 || between 0x17AB 0x17AC c || c == 0x17AF

/-- The Tifinagh consonants. -/
def isTifinagh (c : Nat) : Bool := between 0x2D31 0x2D65 c || c == 0x2D6F

/-- The letters that spell a flag in pairs. -/
def isFlagLetter (c : Nat) : Bool := between 0x1F1E6 0x1F1FF c

/-- The skin tones. -/
def isSkinTone (c : Nat) : Bool := between 0x1F3FB 0x1F3FF c

/-- The letters and digits of a tag. -/
def isTag (c : Nat) : Bool := between 0xE0030 0xE0039 c || between 0xE0061 0xE007A c

/-- The four quotation marks that have a wide form. -/
def isQuotationMark (c : Nat) : Bool := c == 0x2018 || c == 0x2019 || c == 0x201C || c == 0x201D

/-- The marks without a column of their own that leave a ligature whole. -/
def leavesLigature (c : Nat) : Bool :=
  c == 0x34F || between 0x17B4 0x17B5 c || between 0x180B 0x180D c || c == 0x180F ||
    between 0xFE00 0xFE0F c || between 0xE0100 0xE01EF c

/-- The columns that a character above `U+00A0` fills by itself. -/
def charWidth (c : Char) : Nat :=
  if inRuns zeroRuns c then 0
  else if c.toNat == 0x17D8 then 3
  else if inRuns wideRuns c then 2
  else 1

/-- The right side that a character is for the one before it. -/
def rightSide (c : Char) : RightSide :=
  let n := c.toNat
  if isAlef n then .alef
  else if n == 0x5DC then .lamed false
  else if n == 0x1A10 then .ya false
  else if isTifinagh n then .tifinagh false
  else if n == 0xA4FC || n == 0xA4FD then .lisuTone
  else if n == 0x10C03 then .turkicI false
  else if isKhmerConsonant n then .khmerConsonant
  else if n == 0x16D67 then .kiratE
  else if n == 0x16D68 then .kiratAi
  else if isFlagLetter n then .flagLetter
  else if isSkinTone n then .skinTone
  else if inRuns emojiRuns c then .picture
  else .plain

/-- What a character adds to the width when it combines with its right side, and the right side that
the two are together; nothing if it does not combine. -/
def combine? (c : Char) (right : RightSide) : Option (Int × RightSide) :=
  let n := c.toNat
  let only (holds : Bool) (added : Int) (whole : RightSide) :=
    if holds then some (added, whole) else none
  match right with
  | .alef =>
    if isLam n then some (0, .plain)
    else only (inRuns zeroRuns c && !inRuns opaqueRuns c) 0 .alef
  | .lamed joined => only (joined && n == 0x5D0) 0 .plain
  | .ya joined => only (joined && n == 0x1A17) 0 .vowelAndYa
  | .vowelAndYa => only (n == 0x1A15) 0 .plain
  | .tifinagh joined =>
    if n == 0x2D7F then some (1, .tifinaghJoiner) else only (joined && isTifinagh n) 0 .plain
  | .tifinaghJoiner => only (isTifinagh n) (-1) .plain
  | .lisuTone => only (between 0xA4F8 0xA4FB n) 0 .plain
  | .turkicI joined => only (joined && n == 0x10C32) 0 .plain
  | .khmerConsonant => only (n == 0x17D2) (-1) .plain
  | .kiratE =>
    if n == 0x16D67 then some (0, .kiratAi) else only (n == 0x16D63 || n == 0x16D69) 0 .plain
  | .kiratAi => only (n == 0x16D63) 0 .plain
  | .skinTone =>
    if n == 0x200D then some (0, .joiner) else only (inRuns skinToneRuns c) 0 .picture
  | .flagLetter => only (isFlagLetter n) 1 .flagLetters
  | .flagLetters =>
    if n == 0x200D then some (0, .joiner) else only (isFlagLetter n) 1 .flagLetters
  | .picture => only (n == 0x200D) 0 .joiner
  | .joiner =>
    if n == 0x20E3 then some (0, .joinedFrame)
    else if isFlagLetter n then some (1, .joinedFlagLetter)
    else if isSkinTone n then some (0, .skinTone)
    else if n == 0xE007F then some (0, .joinedTags 0)
    else only (inRuns emojiRuns c) 0 .picture
  | .joinedFlagLetter => only (isFlagLetter n) (-1) .joinedFlagPairs
  | .joinedFlagPairs =>
    if n == 0x200D then some (0, .joiner) else only (isFlagLetter n) 3 .joinedFlagPairsAndLetter
  | .joinedFlagPairsAndLetter =>
    if n == 0x200D then some (0, .joiner) else only (isFlagLetter n) (-1) .joinedFlagPairs
  | .joinedTags count =>
    if isTag n then only (count < 6) 0 (.joinedTags (count + 1))
    else only (n == 0x1F3F4 && 3 ≤ count) 0 .picture
  | .plain | .lineFeed | .joinedFrame => none

/-- What a character adds to the width, and the surroundings of the one before it.  A selector that
the character heeds comes first, then another selector, then the marks that leave a ligature whole,
then what it combines with. -/
def measure (c : Char) (around : Surroundings) : Int × Surroundings :=
  let n := c.toNat
  if around.form? = some .emoji && inRuns emojiStyleRuns c then
    (if around.right = .joiner || around.right = .joinedFrame then 0 else 2, .of .picture)
  else if n ≤ 0xA0 then
    if c = '\n' then (1, .of .lineFeed)
    else (if c = '\r' && around.right = .lineFeed then 0 else 1, .of .plain)
  else if n == 0xFE0F then (0, around.dropForm.select .emoji)
  else if n == 0xFE0E then (0, around.dropForm.select .text)
  else if n == 0xFE01 then (0, around.dropForm.select .wide)
  else if around.form? = some .text && inRuns textStyleRuns c then (1, .of .plain)
  else if around.form? = some .wide && isQuotationMark n then (2, .of .plain)
  else
    let right := around.dropForm.right
    if right.isLigaturePart && right ≠ .alef && n == 0x200D then (0, .of right.afterJoiner)
    else if right.isLigaturePart && right ≠ .alef && leavesLigature n then (0, .of right)
    else
      match combine? c right with
      | some (added, whole) => (added, .of whole)
      | none => (charWidth c, .of (rightSide c))

/-- The columns that a text fills. -/
def width (text : String) : Nat :=
  (text.toList.foldr (fun c (sum, around) =>
    let (added, around) := measure c around
    (sum + added, around)) ((0 : Int), Surroundings.of .plain)).1.toNat

end StructMatch.Text
