import StructMatch.Match.Universe

/-!
# Plain value types

The types that fields commonly have: numbers, texts, options, lists, pairs and arrays, over a
universe of declared types.  A plain type can be printed and compared when the types in it can.
-/

namespace StructMatch

/-- The types built from the basic ones and from the declared ones. -/
inductive ValueType (Declared : Type) where
  | unit
  | bool
  | char
  | int (signed : Bool) (bits : Nat)
  | single
  | double
  | text
  /-- A text that is owned elsewhere. -/
  | borrowedText
  | option (of : ValueType Declared)
  | list (of : ValueType Declared)
  | pair (first second : ValueType Declared)
  | array (of : ValueType Declared) (size : Nat)
  | declared (name : Declared)
deriving DecidableEq

namespace ValueType

variable {Declared : Type} [Universe Declared]

/-- The values of a type. -/
def Val : ValueType Declared → Type
  | unit => Unit
  | bool => Bool
  | char => Char
  | int _ _ => Int
  | single => Numeral.Binary Numeral.single
  | double => Numeral.Binary Numeral.double
  | text => String
  | borrowedText => String
  | option t => Option t.Val
  | list t => List t.Val
  | pair s t => s.Val × t.Val
  | array t n => Vector t.Val n
  | declared d => Universe.Val d

/-- The full name of a type. -/
def typeName : ValueType Declared → String
  | unit => "()"
  | bool => "bool"
  | char => "char"
  | int signed bits => (if signed then "i" else "u") ++ toString bits
  | single => "f32"
  | double => "f64"
  | text => "alloc::string::String"
  | borrowedText => "&str"
  | option t => "core::option::Option<" ++ t.typeName ++ ">"
  | list t => "alloc::vec::Vec<" ++ t.typeName ++ ">"
  | pair s t => "(" ++ s.typeName ++ ", " ++ t.typeName ++ ")"
  | array t n => "[" ++ t.typeName ++ "; " ++ toString n ++ "]"
  | declared d => Universe.typeName d

/-- The inspected form and the equality of a type, if the types in it have them. -/
def observation? : (t : ValueType Declared) → Option (Observation t.Val)
  | unit => some ⟨inferInstanceAs (Inspect Unit), inferInstanceAs (BEq Unit)⟩
  | bool => some ⟨inferInstanceAs (Inspect Bool), inferInstanceAs (BEq Bool)⟩
  | char => some ⟨inferInstanceAs (Inspect Char), inferInstanceAs (BEq Char)⟩
  | int _ _ => some ⟨inferInstanceAs (Inspect Int), inferInstanceAs (BEq Int)⟩
  | single =>
    some ⟨inferInstanceAs (Inspect (Numeral.Binary _)), inferInstanceAs (BEq (Numeral.Binary _))⟩
  | double =>
    some ⟨inferInstanceAs (Inspect (Numeral.Binary _)), inferInstanceAs (BEq (Numeral.Binary _))⟩
  | text => some ⟨inferInstanceAs (Inspect String), inferInstanceAs (BEq String)⟩
  | borrowedText => some ⟨inferInstanceAs (Inspect String), inferInstanceAs (BEq String)⟩
  | option t => do
    let ⟨_, _⟩ ← t.observation?
    some ⟨inferInstanceAs (Inspect (Option t.Val)), inferInstanceAs (BEq (Option t.Val))⟩
  | list t => do
    let ⟨_, _⟩ ← t.observation?
    some ⟨inferInstanceAs (Inspect (List t.Val)), inferInstanceAs (BEq (List t.Val))⟩
  | pair s t => do
    let ⟨_, _⟩ ← s.observation?
    let ⟨_, _⟩ ← t.observation?
    some ⟨inferInstanceAs (Inspect (s.Val × t.Val)), inferInstanceAs (BEq (s.Val × t.Val))⟩
  | array t n => do
    let ⟨_, _⟩ ← t.observation?
    some ⟨inferInstanceAs (Inspect (Vector t.Val n)), inferInstanceAs (BEq (Vector t.Val n))⟩
  | declared d => Universe.observation? d

instance : Universe (ValueType Declared) := ⟨Val, typeName, observation?⟩

end ValueType

end StructMatch
