import StructMatch.Source.Literal

/-!
# Reading tokens

A text is read into tokens from its beginning to its end.  Blanks and comments separate tokens and
leave no trace, except that a comment which documents something becomes an attribute `#[doc = …]`.
A text whose brackets do not match, or in which something begins no token, is not read at all.
-/

namespace StructMatch.Source

open Text

/-! ## Blanks and comments -/

/-- What follows a comment between `/*` and `*/`, in which such comments may be nested. -/
def afterBlockComment? (depth : Nat) : Reader
  | [] => none
  | '/' :: '*' :: cs => afterBlockComment? (depth + 1) cs
  | '*' :: '/' :: cs => if depth = 1 then some cs else afterBlockComment? (depth - 1) cs
  | _ :: cs => afterBlockComment? depth cs

/-- The rest of a line, and what follows it from the line feed on. -/
def restOfLine : List Char → List Char × List Char
  | [] => ([], [])
  | c :: cs =>
    if c = '\n' then ([], c :: cs)
    else if c = '\r' && cs.head? = some '\n' then ([], cs)
    else
      let (line, rest) := restOfLine cs
      (c :: line, rest)

/-- Whether the text begins with the given one. -/
def begins (start : String) (cs : List Char) : Bool := (afterStart? start.toList cs).isSome

/-- What follows a comment that documents nothing. -/
def afterComment? (cs : List Char) : Option (List Char) :=
  if begins "//" cs then
    if (begins "///" cs && !begins "////" cs) || begins "//!" cs then none
    else some (restOfLine cs).2
  else if begins "/**/" cs then some (cs.drop 4)
  else if begins "/*" cs then
    if (begins "/**" cs && !begins "/***" cs) || begins "/*!" cs then none
    else afterBlockComment? 0 cs
  else none

/-- Whether the character separates tokens. -/
def isSeparator (c : Char) : Bool := isBlank c || c.toNat = 0x200E || c.toNat = 0x200F

/-- The text without the blanks and comments it begins with, of which at most the given number is
skipped. -/
def skipBlanks : Nat → List Char → List Char
  | 0, cs => cs
  | n + 1, cs =>
    match afterComment? cs with
    | some rest => skipBlanks n rest
    | none =>
      match cs with
      | [] => []
      | c :: rest => if isSeparator c then skipBlanks n rest else c :: rest

/-- Whether each carriage return is followed by a line feed. -/
def returnsAreClosed : List Char → Bool
  | [] => true
  | c :: cs => (c ≠ '\r' || cs.head? = some '\n') && returnsAreClosed cs

/-- The comment that documents something at the beginning of a text: whether it documents what
encloses it, its own text, and what follows. -/
def documentation? (cs : List Char) : Option (Bool × List Char × List Char) :=
  let block := fun rest : List Char =>
    let comment := cs.take (cs.length - rest.length)
    ((comment.drop 3).dropLast.dropLast, rest)
  if begins "//!" cs then
    some (true, restOfLine (cs.drop 3))
  else if begins "/*!" cs then
    (afterBlockComment? 0 cs).map fun rest => (true, block rest)
  else if begins "///" cs && !begins "////" cs then
    some (false, restOfLine (cs.drop 3))
  else if begins "/**" cs && !begins "/***" cs then
    (afterBlockComment? 0 cs).map fun rest => (false, block rest)
  else none

/-- The attribute that stands for a comment, and what follows. -/
def documentationTokens? (cs : List Char) : Option (List Token × List Char) := do
  let (isInner, text, rest) ← documentation? cs
  if returnsAreClosed text then
    let bang := if isInner then [Token.sign '!' false] else []
    let body := [Token.word "doc", .sign '=' false, textLiteral (String.ofList text)]
    some (.sign '#' false :: bang ++ [.group .square body], rest)
  else none

/-! ## Words and signs -/

/-- The word at the beginning of a text, with or without the mark of a raw word. -/
def readWord? (cs : List Char) : Option (String × List Char) :=
  match cs with
  | 'r' :: '#' :: marked => do
    let (word, rest) ← plainWord? marked
    let name := String.ofList word
    if pathWords.contains name then none else some ("r#" ++ name, rest)
  | _ => (plainWord? cs).map fun (word, rest) => (String.ofList word, rest)

/-- The beginnings that belong to a literal and to no word. -/
def literalMarks : List String :=
  ["r\"", "r#\"", "r##", "b\"", "b'", "br\"", "br#", "c\"", "cr\"", "cr#"]

/-- The sign at the beginning of a text.  A slash that begins a comment is none. -/
def readSign? : List Char → Option (Char × List Char)
  | [] => none
  | c :: cs =>
    if c = '/' && (cs.head? = some '/' || cs.head? = some '*') then none
    else if "~!@#$%^&*-=+|;:,<.>/?'".toList.contains c then some (c, cs)
    else none

/-- The sign token at the beginning of a text.  A single quote is the beginning of a lifetime, so a
word must follow, and no quote after that. -/
def readSignToken? (cs : List Char) : Option (Token × List Char) := do
  let (c, rest) ← readSign? cs
  if c = '\'' then
    let (_, after) ← readWord? rest
    if after.head? = some '\'' || (after.head? = some '#' && !begins "r#" rest) then none
    else some (.sign c true, rest)
  else some (.sign c (readSign? rest).isSome, rest)

/-- The token without brackets at the beginning of a text. -/
def readLeaf? (cs : List Char) : Option (Token × List Char) :=
  (readLiteral? cs).or <| (readSignToken? cs).or <|
    if literalMarks.any fun mark => begins mark cs then none
    else (readWord? cs).map fun (text, rest) => (.word text, rest)

/-! ## Token sequences -/

/-- The mark in place of what could not be read.  It is a single token and opens no group. -/
def unreadableMark : String := "(/*ERROR*/)"

/-- The kind of group that the character opens. -/
def opening? : Char → Option Delimiter
  | '(' => some .round
  | '[' => some .square
  | '\x7b' => some .curly
  | _ => none

/-- The kind of group that the character closes. -/
def closing? : Char → Option Delimiter
  | ')' => some .round
  | ']' => some .square
  | '\x7d' => some .curly
  | _ => none

/-- The tokens up to the end of the text or to a closing bracket, which is left standing.  The first
argument bounds the number of steps. -/
def readTokens? : Nat → List Char → Option (List Token × List Char)
  | 0, _ => none
  | n + 1, cs =>
    let cs := skipBlanks (n + 1) cs
    let whole? := (documentationTokens? cs).or <|
      (afterStart? unreadableMark.toList cs).map fun rest =>
        ([.literal .unreadable unreadableMark], rest)
    match whole?, cs with
    | some (tokens, rest), _ => do
      let (more, rest) ← readTokens? n rest
      some (tokens ++ more, rest)
    | none, [] => some ([], [])
    | none, c :: rest =>
      match opening? c, closing? c with
      | some delimiter, _ => do
        let (inner, rest) ← readTokens? n rest
        match rest with
        | [] => none
        | close :: rest =>
          if closing? close = some delimiter then
            let (more, rest) ← readTokens? n rest
            some (.group delimiter inner :: more, rest)
          else none
      | none, some _ => some ([], c :: rest)
      | none, none => do
        let (token, rest) ← readLeaf? (c :: rest)
        let (more, rest) ← readTokens? n rest
        some (token :: more, rest)

/-- The text without the byte order mark it may begin with. -/
def dropByteOrderMark : List Char → List Char
  | [] => []
  | c :: cs => if c.toNat = 0xFEFF then cs else c :: cs

/-- The tokens of a text. -/
def tokenize? (cs : List Char) : Option (List Token) :=
  let cs := dropByteOrderMark cs
  match readTokens? (cs.length + 1) cs with
  | some (tokens, []) => some tokens
  | _ => none

/-- The text without the line that names an interpreter, if it begins with one. -/
def dropInterpreter (cs : List Char) : List Char :=
  match cs with
  | '#' :: '!' :: rest =>
    if (skipBlanks (rest.length + 1) rest).head? = some '[' then cs
    else cs.dropWhile (· ≠ '\n')
  | _ => cs

end StructMatch.Source
