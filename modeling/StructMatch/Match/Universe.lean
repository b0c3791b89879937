import StructMatch.Match.Inspect

/-!
# Values whose type is known at run time only

The properties of a struct have many types, and one list of matchers has to serve them all.  A
universe is a family of types named by codes that can be compared, and an erased value is a value
together with the code of its type.  Reading it back at a type succeeds exactly at its own.
-/

namespace StructMatch

/-- What a type offers when its values can be printed and compared. -/
structure Observation (α : Type) where
  inspect : Inspect α
  equal : BEq α

/-- A family of types, each named by a code and by the text that descriptions show for it. -/
class Universe (Code : Type) where
  Val : Code → Type
  typeName : Code → String
  observation? : (code : Code) → Option (Observation (Val code)) := fun _ => none

/-- A value with the code of its type. -/
structure Erased (Code : Type) [Universe Code] where
  code : Code
  val : Universe.Val code

namespace Erased

variable {Code : Type} [Universe Code]

/-- The name of the value's own type. -/
def typeName (x : Erased Code) : String := Universe.typeName x.code

variable [DecidableEq Code]

/-- The value at the type `code`, if that is its own type. -/
def downcast? (code : Code) (x : Erased Code) : Option (Universe.Val code) :=
  if h : x.code = code then some (h ▸ x.val) else none

@[simp] theorem downcast?_self (code : Code) (v : Universe.Val code) :
    (Erased.mk code v).downcast? code = some v := by
  simp [downcast?]

theorem downcast?_of_ne {code : Code} {x : Erased Code} (h : x.code ≠ code) :
    x.downcast? code = none := by
  simp [downcast?, h]

end Erased

end StructMatch
