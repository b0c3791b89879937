import StructMatch.Code.MacroCall

/-!
# Constants

A constant in a type is an expression.  It is written on one line: a sign after an operand is an
operator and has a blank on either side, a sign before an operand stands close to it, and there is
no blank inside of a path, around a dot, or between an operand and the brackets after it.  A comma
after the last item of a list is left out, except in a tuple with a single part.

A block with several statements is broken into lines, with one statement on each.
-/

namespace StructMatch.Code

open Layout Source

/-! ## The pieces of an expression -/

/-- What an expression is made of. -/
inductive Piece where
  | word (text : String)
  /-- A literal or a lifetime. -/
  | atom (text : String)
  /-- A sign, and whether the next sign belongs to it. -/
  | sign (text : String) (joined : Bool)
  /-- A group with the code inside of it, and whether that is one item with a comma after it. -/
  | group (delimiter : Delimiter) (inner : String) (isSingle : Bool)
deriving DecidableEq

/-- The words after which an operand begins. -/
def openingWords : List String :=
  ["as", "async", "become", "box", "break", "const", "continue", "dyn", "else", "extern", "for",
    "if", "impl", "in", "let", "loop", "match", "move", "mut", "raw", "ref", "return", "static",
    "unsafe", "where", "while", "yield"]

/-- Puts the characters of a sign together, and a quote with the word after it. -/
def joinSigns : List Piece → List Piece
  | [] => []
  | piece :: rest =>
    match piece, joinSigns rest with
    | .sign "'" _, .word name :: more => .atom ("'" ++ name) :: more
    | .sign a true, .sign b joined :: more => .sign (a ++ b) joined :: more
    | piece, more => piece :: more

/-- What the code before a piece ends with. -/
structure Ending where
  /-- Whether an operand has ended. -/
  ended : Bool := false
  /-- Whether a blank stands before what follows. -/
  apart : Bool := false
  /-- Whether a type follows, as after `as`. -/
  inType : Bool := false
  /-- How many angle brackets are open. -/
  depth : Nat := 0
  /-- Whether the parameters of a closure are open. -/
  inClosure : Bool := false

/-- A piece in code, with the blank before it, and what the code then ends with. -/
def Ending.step (before : Ending) (piece : Piece) : String × Ending :=
  let gap := fun (isApart : Bool) (text : String) => if isApart then " " ++ text else text
  let here : Ending := { before with apart := false }
  match piece with
  | .word text =>
    (gap (before.apart || before.ended) text,
      if openingWords.contains text then
        { here with ended := false, apart := true, inType := text = "as" }
      else { here with ended := true })
  | .atom text => (gap (before.apart || before.ended) text, { here with ended := true })
  | .group delimiter inner isSingle =>
    let single := if isSingle && !before.ended then "," else ""
    let text :=
      match delimiter with
      | .round => "(" ++ inner ++ single ++ ")"
      | .square => "[" ++ inner ++ "]"
      | .curly => if inner.isEmpty then "\x7b\x7d" else "\x7b " ++ inner ++ " \x7d"
    let isApart := if delimiter = .curly then before.apart || before.ended else before.apart
    (gap isApart text, { here with ended := true })
  | .sign text _ =>
    let close := { here with ended := false }
    let wide := { here with ended := false, apart := true, inType := false }
    let opensAngle := !before.ended || before.inType || before.depth ≠ 0
    if text = "," || text = ";" || text = ":" then (text, wide)
    else if text = "::" then (gap before.apart text, close)
    else if text = "." then (text, close)
    else if text = "=" || text = "->" || text = "=>" then (" " ++ text, wide)
    else if text = "?" then (text, here)
    else if text = "!" && before.ended then (text, here)
    else if text = ".." || text = "..=" then (gap before.apart text, close)
    else if text = "<" && opensAngle then
      (gap before.apart text, { close with depth := before.depth + 1 })
    else if text = ">" && before.depth ≠ 0 then
      (text, { here with ended := true, depth := before.depth - 1 })
    else if text = "|" && before.inClosure then (text, { wide with inClosure := false })
    else if text = "|" && !before.ended then
      (gap before.apart text, { close with inClosure := true })
    else if before.ended then (" " ++ text, wide)
    else (gap before.apart text, close)

/-- Pieces in code, after code with the given ending. -/
def piecesText (before : Ending) : List Piece → String
  | [] => ""
  | piece :: rest =>
    let isLast :=
      match rest with
      | [] => true
      | .sign ">" _ :: _ => before.depth ≠ 0
      | .sign "|" _ :: _ => before.inClosure
      | _ => false
    if piece = .sign "," false && isLast then piecesText before rest
    else
      let (text, after) := before.step piece
      text ++ piecesText after rest

/-- Whether the pieces are one item with a comma after it. -/
def isSingleItem (pieces : List Piece) : Bool :=
  pieces.getLast? = some (.sign "," false) && pieces.count (.sign "," false) = 1

/-- Code that consists of the given pieces. -/
def piecesCode (pieces : List Piece) : String := piecesText {} (joinSigns pieces)

/-- The pieces of an expression. -/
def pieces : List Token → List Piece
  | [] => []
  | .word name :: .sign '!' false :: .group delimiter inner :: rest =>
    if openingWords.contains name then
      .word name :: .sign "!" false ::
        .group delimiter (piecesCode (pieces inner)) (isSingleItem (pieces inner)) :: pieces rest
    else
      .word name :: .sign "!" false ::
        .group delimiter (flatAll (macroTokens .start true inner)) false :: pieces rest
  | .word text :: rest => .word text :: pieces rest
  | .sign c joined :: rest => .sign c.toString joined :: pieces rest
  | .literal _ text :: rest => .atom text :: pieces rest
  | .group delimiter inner :: rest =>
    .group delimiter (piecesCode (pieces inner)) (isSingleItem (pieces inner)) :: pieces rest

/-- An expression on one line. -/
def expressionText (tokens : List Token) : String := piecesCode (pieces tokens)

/-! ## Blocks -/

/-- The attributes at the beginning of a block, and the tokens after them. -/
def splitInnerAttributes : List Token → List (List Token) × List Token
  | .sign '#' _ :: .sign '!' _ :: .group .square inner :: rest =>
    let (attributes, rest) := splitInnerAttributes rest
    (inner :: attributes, rest)
  | tokens => ([], tokens)

/-- The statements of a block that end in a semicolon, and what stands after the last of them. -/
def splitStatements : List Token → List (List Token) × List Token
  | [] => ([], [])
  | .sign ';' _ :: rest =>
    let (statements, value) := splitStatements rest
    ([] :: statements, value)
  | token :: rest =>
    match splitStatements rest with
    | (first :: more, value) => ((token :: first) :: more, value)
    | ([], value) => ([], token :: value)

/-- A block of statements. -/
def blockDocs (tokens : List Token) : List Doc :=
  let (attributes, tokens) := splitInnerAttributes tokens
  let marks := attributes.flatMap fun inner =>
    [Doc.text ("#![" ++ flatAll (macroTokens .start true inner) ++ "]"), spaceLine]
  let (statements, value) := splitStatements tokens
  let lines := (statements.filter (!·.isEmpty)).map fun s =>
    statementLine [.text (expressionText s ++ ";")]
  let result :=
    match value with
    | [] => []
    | _ :: _ => [statementLine [.text (expressionText value)]]
  let closing : Doc := .line { offset := -level, blanks := 1 }
  match marks, statements, lines ++ result with
  | [], [], [] => [.text "\x7b\x7d"]
  | _, _, [] =>
    [.group level true (.text "\x7b" :: spaceLine :: marks.dropLast ++ [closing]), .text "\x7d"]
  | _, [], all =>
    [.group level true (.text "\x7b" :: spaceLine :: marks ++ all.flatten ++ [closing]),
      .text "\x7d"]
  | _, _ :: _, all =>
    [.group level true
      (.text "\x7b" :: spaceLine :: marks ++ (all.intersperse [hardLine]).flatten ++ [closingLine]),
      .text "\x7d"]

/-- A constant. -/
def constantDocs : List Token → List Doc
  | [.group .curly inner] => blockDocs inner
  | tokens => [.text (expressionText tokens)]

end StructMatch.Code
