import StructMatch.FileTree.Basic
import StructMatch.Source.File
import StructMatch.StructType

/-!
# Reading the fields of a struct

The fields of a struct are read from the file that it is declared in: the file is read again, and
the struct is looked up by its name inside the inline modules that are known to enclose it.  Tuple
structs and unit structs have no named fields.
-/

namespace StructMatch

namespace Source

/-- A field of a struct by its name, with its type as it is spelled. -/
structure Field where
  name : String
  type : String
deriving DecidableEq

/-- The fields of a struct in the order in which they are declared.  They go by their names without
the marks of raw identifiers. -/
def StructItem.namedFields (item : StructItem) : List Field :=
  item.fields.map fun field => ⟨field.name.plain, field.type⟩

end Source

open Source

/-- Why the fields of a struct could not be read. -/
inductive IntrospectionError where
  /-- It is not known where the type is declared. -/
  | noSource (type : String)
  | unreadable (file : Path) (cause : FileError)
  | unparsable (file : Path)
  | notFound (name : String) (file : Path)
  /-- The type has parameters. -/
  | generic (type : String)
deriving DecidableEq

/-- The text of a failure. -/
def IntrospectionError.message : IntrospectionError → String
  | noSource type => "no source location recorded for " ++ type
  | unreadable file cause => "failed to read " ++ file.text ++ ": " ++ cause.message
  | unparsable file => "failed to parse " ++ file.text ++ ": syntax error"
  | notFound name file => "struct " ++ name ++ " not found in " ++ file.text
  | generic type => type ++ " has generic parameters"

/-- A way to find out the fields of a type. -/
abbrev Introspector := StructType → Except IntrospectionError (List Field)

/-- The first struct of the given name inside the first modules of the given names that have one. -/
def findStruct? (name : String) : List String → List Item → Option StructItem
  | [], items => items.findSome? fun
    | .struct item => if item.name.text = name then some item else none
    | _ => none
  | module :: inner, items => items.findSome? fun
    | .module (.mk other _ (some content)) =>
      if other.plain = module then findStruct? name inner content else none
    | _ => none

/-- The fields of a type as they are declared in a file with the given items. -/
def fieldsIn (items : List Item) (type : StructType) (declaration : Declaration) :
    Except IntrospectionError (List Field) :=
  match findStruct? type.name declaration.inlineModules items with
  | none => .error (.notFound type.name declaration.file)
  | some item =>
    if item.isGeneric then .error (.generic type.qualifiedName) else .ok item.namedFields

/-- The fields of a type as its file declares them. -/
def FileTree.fieldsOf (tree : FileTree) (cwd : Location) : Introspector := fun type =>
  match type.declaration? with
  | none => .error (.noSource type.qualifiedName)
  | some declaration =>
    match tree.readText cwd declaration.file with
    | .error cause => .error (.unreadable declaration.file cause)
    | .ok text =>
      match readFile? text with
      | none => .error (.unparsable declaration.file)
      | some items => fieldsIn items type declaration

end StructMatch
