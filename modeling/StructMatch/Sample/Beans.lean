import StructMatch.Match.Matcher
import StructMatch.Match.ValueType

/-!
# Sample structs

A few structs to try matchers on: an account, a mode that is off, at a level or named, a pair of
accounts, an opaque code that can be neither printed nor compared, and a struct with a field of
every kind.  Each of them lists its properties, the first of which is the whole value.
-/

namespace StructMatch.Sample

open Numeral

structure Account where
  id : Int
  owner : String
deriving BEq

instance : Inspect Account :=
  ⟨fun a => inspectRecord "Account" [("id", inspect a.id), ("owner", inspect a.owner)]⟩

inductive Mode where
  | off
  | level (n : Int)
  | named (name : String)
deriving BEq

instance : Inspect Mode :=
  ⟨fun
    | .off => "Off"
    | .level n => inspectVariant "Level" [inspect n]
    | .named name => inspectRecord "Named" [("name", inspect name)]⟩

structure AccountPair where
  left : Account
  right : Account
deriving BEq

instance : Inspect AccountPair :=
  ⟨fun p => inspectRecord "Pair" [("left", inspect p.left), ("right", inspect p.right)]⟩

/-- A code that shows nothing of itself. -/
structure Opaque where
  code : Int

/-- A struct with a field of every kind. -/
structure Everything where
  flag : Bool := false
  id : Int := 0
  big : Int := 0
  ratio : Binary double := .finite false 0 double.least
  name : String := ""
  tag : Option String := none
  items : List Int := []
  mode : Mode := .off
  inner : Opaque := ⟨0⟩
  owner : Account := ⟨0, ""⟩

structure SimplePojo where
  simpleProp : String

/-- A described thing. -/
structure Described where
  text : String

structure Holder where
  inner : Opaque
  label : String

/-- The names of the sample structs. -/
inductive Bean where
  | account
  | mode
  | accountPair
  | opaqueCode
  | everything
  | simplePojo
  | described
  | holder
deriving DecidableEq

instance : Universe Bean where
  Val
    | .account => Account
    | .mode => Mode
    | .accountPair => AccountPair
    | .opaqueCode => Opaque
    | .everything => Everything
    | .simplePojo => SimplePojo
    | .described => Described
    | .holder => Holder
  typeName
    | .account => "driver::beans::Account"
    | .mode => "driver::beans::Mode"
    | .accountPair => "driver::beans::Pair<driver::beans::Account>"
    | .opaqueCode => "driver::beans::Opaque"
    | .everything => "driver::beans::Sample"
    | .simplePojo => "driver::beans::SimplePojo"
    | .described => "driver::beans::Description"
    | .holder => "driver::beans::Holder"
  observation?
    | .account => some ⟨inferInstanceAs (Inspect Account), inferInstanceAs (BEq Account)⟩
    | .mode => some ⟨inferInstanceAs (Inspect Mode), inferInstanceAs (BEq Mode)⟩
    | .accountPair =>
      some ⟨inferInstanceAs (Inspect AccountPair), inferInstanceAs (BEq AccountPair)⟩
    | _ => none

/-- The types of the sample values. -/
abbrev Kind := ValueType Bean

/-- A sample value with its type. -/
abbrev Value := Erased Kind

/-- The own properties of a sample struct. -/
def Bean.properties : (b : Bean) → Universe.Val b → List (String × Value)
  | .account, (a : Account) => [("id", ⟨.int false 32, a.id⟩), ("owner", ⟨.text, a.owner⟩)]
  | .accountPair, (p : AccountPair) =>
    [("left", ⟨.declared .account, p.left⟩), ("right", ⟨.declared .account, p.right⟩)]
  | .opaqueCode, (o : Opaque) => [("code", ⟨.int false 8, o.code⟩)]
  | .everything, (s : Everything) =>
    [("flag", ⟨.bool, s.flag⟩), ("id", ⟨.int false 32, s.id⟩), ("big", ⟨.int true 64, s.big⟩),
      ("ratio", ⟨.double, s.ratio⟩), ("name", ⟨.text, s.name⟩), ("tag", ⟨.option .text, s.tag⟩),
      ("items", ⟨.list (.int true 32), s.items⟩), ("mode", ⟨.declared .mode, s.mode⟩),
      ("inner", ⟨.declared .opaqueCode, s.inner⟩), ("owner", ⟨.declared .account, s.owner⟩)]
  | .simplePojo, (s : SimplePojo) => [("simple_prop", ⟨.text, s.simpleProp⟩)]
  | .described, (d : Described) => [("text", ⟨.text, d.text⟩)]
  | .holder, (h : Holder) =>
    [("inner", ⟨.declared .opaqueCode, h.inner⟩), ("label", ⟨.text, h.label⟩)]
  | .mode, _ => []

/-- The property of a value by its name: the whole value, or a property of a struct. -/
def property? (kind : Kind) (name : String) (v : Universe.Val kind) : Option Value :=
  if name = "self" then some ⟨kind, v⟩
  else
    match kind, v with
    | .declared b, v => (b.properties v).lookup name
    | _, _ => none

/-- The reader of a property, which reads the whole value when there is no such property. -/
def reader (kind : Kind) (name : String) (v : Universe.Val kind) : Value :=
  (property? kind name v).getD ⟨kind, v⟩

/-- Accepts one code.  The code itself is shown, although its struct shows nothing. -/
def hasCode (code : Int) : Matcher (Universe.Val (Bean.opaqueCode)) where
  accepts o := o.code == code
  expectation := "code " ++ bracketed code
  mismatch o := "code was " ++ bracketed o.code

end StructMatch.Sample
