import StructMatch.Text.Escape

/-!
# Tokens

Source code is a sequence of token trees: words, signs, literals, and groups between matching
brackets.  A sign remembers whether the next sign follows it without a gap, so that `->` can be told
from `- >`.  The spelling of a sequence puts one space between any two tokens, except after a sign
that is joined to the next one.
-/

namespace StructMatch.Source

/-- The brackets around a group. -/
inductive Delimiter where
  | round
  | square
  | curly
deriving DecidableEq

/-- What a literal denotes. -/
inductive LiteralKind where
  | text
  | byteText
  | nullTerminatedText
  | byte
  | char
  | integer
  | decimal
  /-- The mark `(/*ERROR*/)` in place of what could not be read. -/
  | unreadable
deriving DecidableEq

/-- A token or a group of tokens. -/
inductive Token where
  /-- A word, with its mark `r#` if it is raw. -/
  | word (text : String)
  /-- A sign, and whether it is joined to the sign after it. -/
  | sign (char : Char) (joined : Bool)
  | literal (kind : LiteralKind) (text : String)
  | group (delimiter : Delimiter) (inner : List Token)

/-- The brackets as they are written.  A curly group keeps a space from its content. -/
def Delimiter.brackets (delimiter : Delimiter) (isEmpty : Bool) : String × String :=
  match delimiter with
  | round => ("(", ")")
  | square => ("[", "]")
  | curly => ("\x7b ", if isEmpty then "\x7d" else " \x7d")

mutual

/-- The spelling of one token. -/
def Token.spell : Token → String
  | .word text => text
  | .sign c _ => c.toString
  | .literal _ text => text
  | .group delimiter inner =>
    let (opening, closing) := delimiter.brackets inner.isEmpty
    opening ++ spellAll inner ++ closing

/-- The spelling of a sequence of tokens. -/
def spellAll : List Token → String
  | [] => ""
  | [token] => token.spell
  | token :: rest =>
    match token with
    | .sign c true => c.toString ++ spellAll rest
    | _ => token.spell ++ " " ++ spellAll rest

end

mutual

/-- The number of tokens that a token stands for, brackets included. -/
def Token.count : Token → Nat
  | .group _ inner => tokenCount inner + 2
  | .word _ | .sign _ _ | .literal _ _ => 1

/-- The number of tokens in a sequence, brackets included. -/
def tokenCount : List Token → Nat
  | [] => 0
  | token :: rest => token.count + tokenCount rest

end

/-! ## Making tokens -/

/-- The tokens of a sign of several characters. -/
def signs (text : String) : List Token := go text.toList
where
  /-- All characters but the last one are joined to the next. -/
  go : List Char → List Token
    | [] => []
    | [c] => [.sign c false]
    | c :: cs => .sign c true :: go cs

/-- The tokens of a lifetime. -/
def lifetimeTokens (name : String) : List Token := [.sign '\'' true, .word name]

/-- A text literal. -/
def textLiteral (text : String) : Token := .literal .text (Text.literal text)

end StructMatch.Source
