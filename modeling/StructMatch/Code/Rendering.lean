import StructMatch.Code.Layout
import StructMatch.Code.Tokens
import StructMatch.FileTree.Failure

/-!
# Rendering matchers

A specification is rendered to the text of a file: the provenance, and the code laid out on lines.
Rendering fails if the path of the runtime is no path, if a name is no identifier, if the code is
not well formed, which happens when a reserved word serves as a name, or if a part of the code has a
spelling only and no layout.
-/

namespace StructMatch

open Source Code

/-- Why no matcher could be generated for a type. -/
inductive GenerateError where
  | file (path : Path) (cause : FileError)
  /-- The path of the runtime is not a path. -/
  | runtimePath (path : String)
  /-- The type has parameters. -/
  | generic (type : String)
  /-- The code is not well formed. -/
  | malformed (type : String)
  /-- The code holds something verbatim, for which there is no layout. -/
  | withoutLayout (type : String)
  /-- A name of the specification is no identifier. -/
  | invalidName (type : String)
deriving DecidableEq

/-- The text of a failure. -/
def GenerateError.message : GenerateError → String
  | file path cause => "I/O error on " ++ path.text ++ ": " ++ cause.message
  | runtimePath path => "invalid runtime crate path \x60" ++ path ++ "\x60: not a path"
  | generic type =>
    "cannot generate a matcher for " ++ type ++ ": generic structs are not supported"
  | malformed type => "generated code for " ++ type ++ " does not parse: syntax error"
  | withoutLayout type => "generated code for " ++ type ++ " cannot be laid out"
  | invalidName type => "a name in the matcher for " ++ type ++ " is not an identifier"

/-- Whether a failure ends the program on the spot. -/
def GenerateError.isFatal : GenerateError → Bool
  | withoutLayout _ | invalidName _ => true
  | _ => false

/-- The path by which generated code reaches the runtime, unless another one is chosen. -/
def defaultRuntime : String := "::beanmatch"

namespace MatcherSpec

/-- The text of the matcher file of a specification. -/
def render (spec : MatcherSpec) (runtime : String) : Except GenerateError String :=
  match readPath? runtime with
  | none => .error (.runtimePath runtime)
  | some (path, tokens) =>
    if hasCodeWords spec then
      match holdsVerbatim? (fileTokens spec tokens) with
      | none => .error (.malformed spec.target.qualifiedName)
      | some true => .error (.withoutLayout spec.target.qualifiedName)
      | some false => .ok (spec.provenance.header ++ (fileDoc spec path).render codePage)
    else .error (.invalidName spec.target.qualifiedName)

end MatcherSpec

end StructMatch
