import StructMatch.Match.Generated
import StructMatch.Sample.Beans

/-!
# Matchers generated for sample structs

Three matchers as the generator writes them: one fluent method for each field of the struct, and a
factory that expects nothing yet.
-/

namespace StructMatch.Sample

/-- A generated matcher of a sample struct. -/
abbrev BeanMatcher (b : Bean) := GeneratedMatcher (Universe.Val b) Kind

/-- Creates the matcher of a sample struct with no property expectations. -/
def newMatcher (b : Bean) (basedOn : String) : BeanMatcher b :=
  ⟨"beanmatch-build", basedOn, .empty (Universe.typeName b)⟩

namespace SimplePojoMatcher

def isSimplePojo : BeanMatcher .simplePojo := newMatcher .simplePojo "crate::SimplePojo"

def withSimpleProp (m : BeanMatcher .simplePojo) : Matcher Value → BeanMatcher .simplePojo :=
  m.property "simple_prop" fun pojo : SimplePojo => ⟨.text, pojo.simpleProp⟩

end SimplePojoMatcher

namespace DescribedMatcher

def isDescription : BeanMatcher .described := newMatcher .described "crate::Description"

def withText (m : BeanMatcher .described) : Matcher Value → BeanMatcher .described :=
  m.property "text" fun thing : Described => ⟨.text, thing.text⟩

end DescribedMatcher

namespace HolderMatcher

def isHolder : BeanMatcher .holder := newMatcher .holder "crate::Holder"

def withInner (m : BeanMatcher .holder) : Matcher Value → BeanMatcher .holder :=
  m.property "inner" fun holder : Holder => ⟨.declared .opaqueCode, holder.inner⟩

def withLabel (m : BeanMatcher .holder) : Matcher Value → BeanMatcher .holder :=
  m.property "label" fun holder : Holder => ⟨.text, holder.label⟩

end HolderMatcher

end StructMatch.Sample
