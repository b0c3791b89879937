import StructMatch.Source.Cursor
import StructMatch.Source.Syntax

/-!
# The shape of the grammar

The rules for types, expressions, patterns and items refer to one another without end.  So a rule
does not call another one directly: it is given a grammar, which answers each nonterminal with a
rule, and the whole grammar is obtained by giving the rules to themselves as often as the source is
long.

Types yield their syntax.  Of the rest of the source only that it is well formed and how it is
spelled matters, so most rules yield little: expressions yield what decides where a statement ends,
patterns where they may stand, and items yield structs and modules.
-/

namespace StructMatch.Source

/-! ## What rules yield -/

/-- What matters about an expression for the code around it. -/
inductive ExpressionKind where
  /-- An expression that ends a statement by itself, such as a block or a loop. -/
  | block
  | macroCall (delimiter : Delimiter)
  | comparison
  | range
  /-- An expression that is spelled verbatim. -/
  | verbatim
  | other
deriving DecidableEq

/-- What matters about an expression at the beginning of a statement. -/
structure StatementForm where
  kind : ExpressionKind
  /-- Whether its first operand is spelled verbatim. -/
  startsVerbatim : Bool

/-- What matters about a pattern for the code around it. -/
inductive PatternKind where
  /-- A range, and whether it lacks one of its bounds. -/
  | range (isOpen : Bool)
  /-- A block that is evaluated beforehand. -/
  | constant
  /-- A pattern that is spelled verbatim. -/
  | verbatim
  | other
deriving DecidableEq

/-- How strongly operators bind. -/
inductive Precedence where
  | loosest
  | assignment
  | range
  | or
  | and
  | comparison
  | bitOr
  | bitXor
  | bitAnd
  | shift
  | sum
  | product
  | cast
deriving DecidableEq

/-- The place of a precedence, from the loosest one on. -/
def Precedence.rank (p : Precedence) : Nat := p.ctorIdx

/-- A field of a struct as it is declared, with its type as it is spelled. -/
structure FieldItem where
  name : Text.Word
  type : String

/-- A struct as it is declared. -/
structure StructItem where
  name : Text.Word
  isGeneric : Bool
  /-- Whether the struct exists in tests only. -/
  isTestOnly : Bool
  fields : List FieldItem

mutual

/-- A declaration of a source file. -/
inductive Item where
  | struct (item : StructItem)
  | module (item : ModuleItem)
  | other

/-- A module, with its items if they are written inline. -/
inductive ModuleItem where
  | mk (name : Text.Word) (isTestOnly : Bool) (content : Option (List Item))

end

/-- What an attribute says. -/
inductive Attribute where
  /-- The attribute `cfg(test)`. -/
  | testOnly
  | other
deriving DecidableEq

/-! ## Nonterminals -/

/-- The rules that other rules refer to. -/
inductive Nonterminal where
  /-- A type, which may be a sum of bounds or not. -/
  | type (sums : Bool)
  /-- An argument in angle brackets. -/
  | argument
  /-- A parameter in angle brackets, which may lack a name or not. -/
  | parameter (nameless : Bool)
  /-- An expression, which may be a struct literal or not. -/
  | expression (literals : Bool)
  /-- An expression at the beginning of a statement, which it may end by itself. -/
  | statementExpression
  /-- An operand of an operator. -/
  | operand (literals : Bool)
  /-- The operators after an operand that bind at least as strongly as given. -/
  | operators (literals : Bool) (base : Precedence) (left : ExpressionKind)
  | pattern
  /-- The statements of a block up to its end. -/
  | statements
  | item
  /-- The fields of a struct between curly brackets. -/
  | fields
  /-- The tree of an import, which may begin at the crate root or not. -/
  | importTree (rooted : Bool)

/-- What the rule of a nonterminal yields. -/
abbrev Nonterminal.Result : Nonterminal → Type
  | type _ => TypeTree
  | argument => Argument
  | parameter _ => Parameter
  | expression _ => ExpressionKind
  | statementExpression => StatementForm
  | operand _ => ExpressionKind
  | operators _ _ _ => ExpressionKind
  | pattern => PatternKind
  | statements => Unit
  | item => Item
  | fields => List FieldItem
  | importTree _ => Bool

/-- A rule for each nonterminal. -/
abbrev Grammar := (n : Nonterminal) → Parse n.Result

namespace Grammar

variable (g : Grammar)

/-- A type that may be a sum of bounds. -/
def type : Parse TypeTree := g (.type true)

/-- A type that is no sum of bounds. -/
def typeNoSum : Parse TypeTree := g (.type false)

/-- An argument in angle brackets. -/
def argument : Parse Argument := g .argument

/-- An expression. -/
def expression : Parse ExpressionKind := g (.expression true)

/-- A group of statements between curly brackets. -/
def block : Parse Unit := Parse.group .curly (g .statements)

end Grammar

end StructMatch.Source
