import StructMatch.Code.Emission
import StructMatch.Proofs.Properties

/-!
# The properties of a type

The properties of a type are the first occurrences among the names of its fields, whatever the types
of the fields are, `tryPropertiesOf_eq_ok_iff`, and fields that are declared after others only add
to the properties of those, `tryPropertiesOf_append`.  A type without fields that can be read has
no properties.  The generation of matchers asks for the same properties and leaves the same log
behind, but it tells a type with parameters from one that cannot be read, `propertiesFor_eq_map`.
-/

namespace StructMatch

open GeneratorOptions

variable {introspect other : Introspector} {type : StructType}

/-- The properties are told by the fields that are read. -/
theorem tryPropertiesOf_eq_ok_iff {names : List String} :
    tryPropertiesOf introspect type = .ok names ↔
      ∃ fields, introspect type = .ok fields ∧
        AreFirstOccurrences names (fields.map (·.name)) := by
  unfold tryPropertiesOf
  cases introspect type with
  | error error => simp [Except.map]
  | ok fields =>
      constructor
      · intro h
        obtain rfl := Except.ok.inj h
        exact ⟨fields, rfl, areFirstOccurrences _⟩
      · rintro ⟨_, h, hnames⟩
        obtain rfl := Except.ok.inj h
        rw [hnames.eq]
        rfl

/-- There are none exactly if the fields cannot be read, and for the same reason. -/
theorem tryPropertiesOf_eq_error_iff {error : IntrospectionError} :
    tryPropertiesOf introspect type = .error error ↔ introspect type = .error error := by
  unfold tryPropertiesOf
  cases introspect type <;> simp [Except.map]

/-- Of the fields only the names count. -/
theorem tryPropertiesOf_congr
    (h : (other type).map (·.map (·.name)) = (introspect type).map (·.map (·.name))) :
    tryPropertiesOf other type = tryPropertiesOf introspect type := by
  have hnames (introspect : Introspector) : tryPropertiesOf introspect type =
      ((introspect type).map (·.map (·.name))).map firstOccurrences := by
    unfold tryPropertiesOf
    cases introspect type <;> rfl
  rw [hnames, hnames, h]

/-- Fields that follow others add to the properties of those. -/
theorem tryPropertiesOf_append {fields more : List Source.Field}
    (hfields : other type = .ok fields) (hmore : introspect type = .ok (fields ++ more)) :
    ∃ names added, tryPropertiesOf other type = .ok names ∧
      tryPropertiesOf introspect type = .ok (names ++ added) := by
  unfold tryPropertiesOf
  rw [hfields, hmore]
  refine ⟨firstOccurrences (fields.map (·.name)),
    (firstOccurrences (more.map (·.name))).filter (· ∉ fields.map (·.name)), rfl, ?_⟩
  rw [Except.map, List.map_append, firstOccurrences_append]

/-- Where the properties can be told, nothing is logged. -/
theorem propertiesOf_of_ok {names : List String} (h : tryPropertiesOf introspect type = .ok names) :
    propertiesOf introspect (some type) = pure names := by
  simp only [propertiesOf, h]

/-- Where they cannot, there are none, and the log says why. -/
theorem propertiesOf_of_error {error : IntrospectionError}
    (h : tryPropertiesOf introspect type = .error error) :
    propertiesOf introspect (some type) = ⟨[], [⟨.error,
      "Failed to read properties of " ++ type.qualifiedName ++ ": " ++ error.message⟩]⟩ := by
  simp only [propertiesOf, h]
  rfl

/-- A matcher is generated for the same properties, unless the type has parameters. -/
theorem propertiesFor_eq_map
    (h : ∀ name, tryPropertiesOf introspect type ≠ .error (.generic name)) :
    propertiesFor introspect type = .ok <$> propertiesOf introspect (some type) := by
  cases hproperties : tryPropertiesOf introspect type with
  | ok names => simp only [propertiesFor, propertiesOf, hproperties]; rfl
  | error error =>
      cases error with
      | generic name => exact absurd hproperties (h name)
      | _ => simp only [propertiesFor, propertiesOf, hproperties]; rfl

/-- A type with parameters gets no matcher, and nothing is logged. -/
theorem propertiesFor_of_generic {name : String}
    (h : tryPropertiesOf introspect type = .error (.generic name)) :
    propertiesFor introspect type = pure (.error (.generic name)) := by
  simp only [propertiesFor, h]

/-- The properties of a type are the names of the fields that are read, each of them once and in the
order in which they come first.  They begin with those of any first part of the fields and do not
depend on the types of the fields.  Where the fields cannot be read, this is told to whoever asks
for the reason.  To others there are no properties then, and one line is logged.  The generation of
matchers goes by the same properties with the same log, but passes on that a type has parameters. -/
theorem properties_once_in_order (introspect : Introspector) (type : StructType) :
    (∀ names, tryPropertiesOf introspect type = .ok names ↔
      ∃ fields, introspect type = .ok fields ∧
        AreFirstOccurrences names (fields.map (·.name))) ∧
    (∀ error, tryPropertiesOf introspect type = .error error ↔ introspect type = .error error) ∧
    (∀ (other : Introspector) (part rest : List Source.Field),
      other type = .ok part → introspect type = .ok (part ++ rest) →
      ∃ first whole, tryPropertiesOf other type = .ok first ∧
        tryPropertiesOf introspect type = .ok whole ∧ first <+: whole) ∧
    (∀ other : Introspector,
      (other type).map (·.map (·.name)) = (introspect type).map (·.map (·.name)) →
      tryPropertiesOf other type = tryPropertiesOf introspect type) ∧
    (∀ names, tryPropertiesOf introspect type = .ok names →
      propertiesOf introspect (some type) = pure names) ∧
    (∀ error, tryPropertiesOf introspect type = .error error →
      propertiesOf introspect (some type) = ⟨[], [⟨.error,
        "Failed to read properties of " ++ type.qualifiedName ++ ": " ++ error.message⟩]⟩) ∧
    (∀ name, tryPropertiesOf introspect type = .error (.generic name) →
      propertiesFor introspect type = pure (.error (.generic name))) ∧
    ((∀ name, tryPropertiesOf introspect type ≠ .error (.generic name)) →
      propertiesFor introspect type = .ok <$> propertiesOf introspect (some type)) := by
  refine ⟨fun _ => tryPropertiesOf_eq_ok_iff, fun _ => tryPropertiesOf_eq_error_iff,
    fun other part rest hpart hwhole => ?_, fun _ => tryPropertiesOf_congr,
    fun _ => propertiesOf_of_ok, fun _ => propertiesOf_of_error,
    fun _ => propertiesFor_of_generic, propertiesFor_eq_map⟩
  obtain ⟨first, added, hfirst, hadded⟩ := tryPropertiesOf_append hpart hwhole
  exact ⟨first, first ++ added, hfirst, hadded, List.prefix_append first added⟩

/-- A type that is declared nowhere. -/
def pojoType : StructType := ⟨"SimplePojo", ⟨["pojos"]⟩, none⟩

/-- Fields two of which have the same name. -/
def pojoFields : List Source.Field := [⟨"b", "u8"⟩, ⟨"a", "u8"⟩, ⟨"b", "String"⟩]

/-- The name that comes twice is listed where it comes first, and the properties begin with those of
the first field.  A type with parameters is told from one whose declaration is not known. -/
theorem properties_once_in_order_pojo :
    tryPropertiesOf (fun _ => .ok pojoFields) pojoType = .ok ["b", "a"] ∧
      propertiesOf (fun _ => .ok pojoFields) (some pojoType) = pure ["b", "a"] ∧
      (∃ first whole, tryPropertiesOf (fun _ => .ok (pojoFields.take 1)) pojoType = .ok first ∧
        tryPropertiesOf (fun _ => .ok pojoFields) pojoType = .ok whole ∧ first <+: whole) ∧
      propertiesFor (fun _ => .error (.generic "crate::pojos::SimplePojo")) pojoType =
        pure (.error (.generic "crate::pojos::SimplePojo")) ∧
      (propertiesFor (fun _ => .error (.noSource "crate::pojos::SimplePojo")) pojoType).result =
        .ok [] := by
  obtain ⟨hlisted, -, hpart, -, hok, -⟩ :=
    properties_once_in_order (fun _ => .ok pojoFields) pojoType
  obtain ⟨-, hgeneric, -, -, -, -, hpassed, -⟩ :=
    properties_once_in_order (fun _ => .error (.generic "crate::pojos::SimplePojo")) pojoType
  obtain ⟨-, hnoSource, -, -, -, hnone, -, hsame⟩ :=
    properties_once_in_order (fun _ => .error (.noSource "crate::pojos::SimplePojo")) pojoType
  have hfirst : firstOccurrences (pojoFields.map (·.name)) = ["b", "a"] := by decide
  have hnames : tryPropertiesOf (fun _ => .ok pojoFields) pojoType = .ok ["b", "a"] :=
    (hlisted _).2 ⟨pojoFields, rfl, hfirst ▸ areFirstOccurrences _⟩
  have hunknown := (hnoSource _).2 rfl
  refine ⟨hnames, hok _ hnames, hpart _ (pojoFields.take 1) (pojoFields.drop 1) rfl rfl,
    hpassed _ ((hgeneric _).2 rfl), ?_⟩
  rw [hsame fun name h => by simp [hunknown] at h, hnone _ hunknown]
  rfl

end StructMatch
