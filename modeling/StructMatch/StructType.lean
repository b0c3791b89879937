import StructMatch.ModulePath
import StructMatch.Path

/-!
# Struct types

The types that matchers are generated for.  A struct type is known by its name and the module it
lies in, and it may know the file it is declared in and the inline modules around it there.
-/

namespace StructMatch

/-- Where a struct is declared. -/
structure Declaration where
  file : Path
  /-- The inline modules around the struct, from the outermost one on. -/
  inlineModules : List String
deriving DecidableEq

/-- A struct type without type parameters. -/
structure StructType where
  name : String
  modulePath : ModulePath
  declaration? : Option Declaration := none
deriving DecidableEq

namespace StructType

/-- The text of the module that the type lies in. -/
def namespaceText (type : StructType) : String := type.modulePath.display

/-- The full path of the type, such as `crate::models::User`. -/
def qualifiedName (type : StructType) : String := type.modulePath.display ++ "::" ++ type.name

/-- The same type, declared at a known place. -/
def declaredAt (type : StructType) (file : Path) (inlineModules : List String) : StructType :=
  { type with declaration? := some ⟨file, inlineModules⟩ }

end StructType

end StructMatch
