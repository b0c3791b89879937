import StructMatch.Text.Escape
import StructMatch.Numeral.Shortest

/-!
# The inspected form of a value

Descriptions print values in the notation of source code: texts quoted, lists in square brackets,
options as `Some(…)` or `None`, records with their field names.  A type without an inspected form
simply has no instance, and its values cannot be printed.
-/

namespace StructMatch

open Text

/-- The types whose values can be printed. -/
class Inspect (α : Type) where
  inspect : α → String

export Inspect (inspect)

/-- Pieces of text with a comma between any two. -/
def commaSeparated (pieces : List String) : String := String.intercalate ", " pieces

/-- A record by its name and the inspected forms of its fields. -/
def inspectRecord (name : String) (fields : List (String × String)) : String :=
  let forms := fields.map fun (field, form) => field ++ ": " ++ form
  name ++ " \x7b " ++ commaSeparated forms ++ " \x7d"

/-- A variant by its name and the inspected forms of its arguments. -/
def inspectVariant (name : String) (arguments : List String) : String :=
  name ++ "(" ++ commaSeparated arguments ++ ")"

instance : Inspect Unit := ⟨fun _ => "()"⟩

instance : Inspect Bool := ⟨fun b => if b then "true" else "false"⟩

instance : Inspect Char := ⟨quoteChar⟩

instance : Inspect String := ⟨quote⟩

instance : Inspect Int := ⟨fun n => String.ofList (toString n).toList⟩

instance {format : Numeral.Format} : Inspect (Numeral.Binary format) := ⟨Numeral.Binary.text⟩

instance {α : Type} [Inspect α] : Inspect (List α) :=
  ⟨fun xs => "[" ++ commaSeparated (xs.map inspect) ++ "]"⟩

instance {α : Type} {n : Nat} [Inspect α] : Inspect (Vector α n) := ⟨fun xs => inspect xs.toList⟩

instance {α : Type} [Inspect α] : Inspect (Option α) :=
  ⟨fun
    | some x => inspectVariant "Some" [inspect x]
    | none => "None"⟩

instance {α β : Type} [Inspect α] [Inspect β] : Inspect (α × β) :=
  ⟨fun (a, b) => inspectVariant "" [inspect a, inspect b]⟩

end StructMatch
