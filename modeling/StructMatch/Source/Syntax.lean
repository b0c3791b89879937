import StructMatch.Source.Token

/-!
# Paths and types

A path is a row of segments, the arguments of which are types again.  A type is made of paths, of
other types and of bounds, where a bound names a trait by its path.  So all of them are given at
once.

Expressions have no structure here.  Where one is part of a type, as the length of an array is, the
tokens that spell it are kept.
-/

namespace StructMatch.Source

/-- What stands before the bounds of a type. -/
inductive BoundsKeyword where
  | none
  | dyn
  | impl
deriving DecidableEq

mutual

/-- A name on a path with its arguments. -/
inductive Segment where
  | mk (name : String) (arguments : Arguments)

/-- The arguments of a segment. -/
inductive Arguments where
  | none
  /-- Arguments in angle brackets, and whether `::` stands before them. -/
  | angle (marked : Bool) (arguments : List Argument)
  /-- Parameters in round brackets and a result. -/
  | call (parameters : List TypeTree) (result : Option TypeTree)

/-- An argument in angle brackets. -/
inductive Argument where
  | lifetime (name : String)
  | type (type : TypeTree)
  /-- The choice of an associated type. -/
  | binding (item : Segment) (type : TypeTree)
  /-- The bounds of an associated type. -/
  | constraint (item : Segment) (bounds : List Bound)

/-- A bound of a type. -/
inductive Bound where
  | lifetime (name : String)
  /-- The parameters on which a type depends. -/
  | captures (names : List String)
  /-- A trait, which may be in brackets, have a binder, and be relaxed by a question mark. -/
  | trait (isBracketed : Bool) (binder : Option (List Parameter)) (isRelaxed : Bool)
      (isGlobal : Bool) (segments : List Segment)
  /-- A bound that is spelled verbatim. -/
  | verbatim

/-- A parameter that a binder or a declaration introduces. -/
inductive Parameter where
  | lifetime (attributes : List Token) (name : String) (bounds : List String)
  | type (attributes : List Token) (name : String) (bounds : List Bound)
      (preset : Option TypeTree)
  | constant (attributes : List Token) (name : String) (type : TypeTree)
      (preset : Option (List Token))

/-- A parameter of a function type.  Without a type it stands for any number of parameters. -/
inductive FunctionParameter where
  | mk (attributes : List Token) (name : Option String) (type : Option TypeTree)

/-- A type. -/
inductive TypeTree where
  | path (isGlobal : Bool) (segments : List Segment)
  /-- A path that begins with a type in angle brackets, which may be seen as a trait. -/
  | qualified (type : TypeTree) (isGlobal : Bool) (trait segments : List Segment)
  | macroCall (isGlobal : Bool) (segments : List Segment) (delimiter : Delimiter)
      (tokens : List Token)
  | bracketed (type : TypeTree)
  | tuple (types : List TypeTree)
  | slice (type : TypeTree)
  | array (type : TypeTree) (length : List Token)
  | reference (lifetime : Option String) (isMutable : Bool) (type : TypeTree)
  | pointer (isMutable : Bool) (type : TypeTree)
  /-- A function, with the words before it and its interface, if it is said to be foreign. -/
  | function (binder : Option (List Parameter)) (isUnsafe : Bool)
      (interface : Option (Option String)) (parameters : List FunctionParameter)
      (result : Option TypeTree)
  /-- A sum of bounds, and whether a `+` follows the last one. -/
  | bounds (keyword : BoundsKeyword) (bounds : List Bound) (goesOn : Bool)
  | never
  | inferred
  /-- A constant in the place of a type. -/
  | constant (tokens : List Token)
  /-- A type that is spelled verbatim. -/
  | verbatim

end

/-- The name of a segment. -/
def Segment.name : Segment → String
  | mk name _ => name

/-- Whether a segment has no arguments. -/
def Segment.isPlain : Segment → Bool
  | mk _ .none => true
  | _ => false

/-- A segment without arguments. -/
def Segment.plain (name : String) : Segment := .mk name .none

/-- A path to a type, value or module. -/
structure SourcePath where
  /-- Whether the path begins with `::`. -/
  isGlobal : Bool
  segments : List Segment

namespace SourcePath

/-- The path that goes on with more segments. -/
def extend (path : SourcePath) (segments : List Segment) : SourcePath :=
  { path with segments := path.segments ++ segments }

/-- Whether no segment of the path has arguments. -/
def isPlain (path : SourcePath) : Bool := path.segments.all Segment.isPlain

/-- The path with other arguments of its last segment. -/
def withArguments (path : SourcePath) (arguments : Arguments) : SourcePath :=
  match path.segments.getLast? with
  | none => path
  | some last => { path with segments := path.segments.dropLast ++ [.mk last.name arguments] }

end SourcePath

/-- The path, if the type is one. -/
def TypeTree.path? : TypeTree → Option SourcePath
  | path isGlobal segments => some ⟨isGlobal, segments⟩
  | _ => none

/-- Whether a bound names a trait. -/
def Bound.isTrait : Bound → Bool
  | trait .. | verbatim => true
  | _ => false

/-- The bound in brackets.  Brackets that it has take no effect. -/
def Bound.inBrackets : Bound → Bound
  | trait _ binder isRelaxed isGlobal segments => trait true binder isRelaxed isGlobal segments
  | bound => bound

end StructMatch.Source
