/-!
# Blanks and lines

The blank characters are those of the Unicode property `White_Space`.  Trimming takes them off both
ends of a text, and a line ends at a line feed, which may have one carriage return before it.
-/

namespace StructMatch.Text

/-- The characters of the Unicode property `White_Space`. -/
def isBlank (c : Char) : Bool :=
  let n := c.toNat
  (9 ≤ n && n ≤ 13) || n == 0x20 || n == 0x85 || n == 0xA0 || n == 0x1680 ||
    (0x2000 ≤ n && n ≤ 0x200A) || n == 0x2028 || n == 0x2029 || n == 0x202F || n == 0x205F ||
    n == 0x3000

/-- The text without the blanks at its two ends. -/
def trim (cs : List Char) : List Char :=
  ((cs.dropWhile isBlank).reverse.dropWhile isBlank).reverse

/-- A line without the one carriage return that may close it. -/
def dropReturn (line : List Char) : List Char :=
  if line.getLast? = some '\r' then line.dropLast else line

/-- The lines of a text.  A line feed ends a line and begins no new one at the end of the text. -/
def lines (cs : List Char) : List (List Char) :=
  match cs with
  | [] => []
  | c :: rest => go [] (c :: rest)
where
  /-- Splits the rest of the text, with the current line collected in reverse. -/
  go (line : List Char) : List Char → List (List Char)
    | [] => [line.reverse]
    | ['\n'] => [dropReturn line.reverse]
    | c :: rest => if c = '\n' then dropReturn line.reverse :: go [] rest else go (c :: line) rest

/-- What follows `start` in a text that begins with it. -/
def afterStart? (start : List Char) (cs : List Char) : Option (List Char) :=
  match start, cs with
  | [], cs => some cs
  | _ :: _, [] => none
  | s :: start, c :: cs => if s = c then afterStart? start cs else none

/-- What comes before `finish` in a text that ends with it. -/
def beforeEnd? (finish : List Char) (cs : List Char) : Option (List Char) :=
  (afterStart? finish.reverse cs.reverse).map List.reverse

end StructMatch.Text
