import StructMatch.Code.Rendering
import StructMatch.Proofs.Source.PathSpelling

/-!
# When a matcher is rendered

Whether the matcher of a specification is rendered depends on the path of the runtime, on the names
and on the form of the code, in this order, `MatcherSpec.render_cases`.
-/

namespace StructMatch

open Source Code

/-! ## The runtime -/

/-- Whether the runtime is named by words alone, of which the first one can begin a type. -/
def IsPlainRuntime (runtime : String) : Prop :=
  (readPath? runtime).any fun (path, _) =>
    path.isPlain && (path.isGlobal || path.segments.head?.map Segment.name ≠ some "try")

instance (runtime : String) : Decidable (IsPlainRuntime runtime) :=
  inferInstanceAs (Decidable (_ = true))

theorem isPlainRuntime_default : IsPlainRuntime defaultRuntime := by decide +kernel

theorem IsPlainRuntime.exists_words {runtime : String} (h : IsPlainRuntime runtime) :
    ∃ path words, readPath? runtime = some (path, PathPrefix.tokens words) ∧ words.IsReadable := by
  obtain ⟨⟨path, tokens⟩, hread, hpath⟩ := (Option.any_eq_true _ _).1 h
  simp only [Bool.and_eq_true, Bool.or_eq_true, decide_eq_true_eq] at hpath
  obtain ⟨hplain, htry⟩ := hpath
  obtain ⟨words, hwords, rfl, rfl⟩ := exists_prefix_of_readPath? hread hplain
  refine ⟨_, words, hread, hwords, fun hglobal hfirst => ?_⟩
  rcases htry with hroot | hother
  · exact absurd (hglobal.symm.trans hroot) (by decide)
  · refine hother ?_
    rw [PathPrefix.segments, List.map_cons, List.head?_cons, Option.map_some, hfirst]
    rfl

/-! ## Specifications -/

namespace MatcherSpec

variable {spec : MatcherSpec} {runtime : String} {path : SourcePath} {tokens : List Token}

/-- What is rendered is the header and the laid out code. -/
theorem render_eq_ok {source : String} (h : spec.render runtime = .ok source) :
    ∃ path tokens, readPath? runtime = some (path, tokens) ∧ hasCodeWords spec = true ∧
      source = spec.provenance.header ++ (fileDoc spec path).render codePage := by
  unfold render at h
  split at h
  · exact absurd h (by simp)
  · next path tokens hpath =>
      split at h
      · next hwords =>
          split at h
          · exact absurd h (by simp)
          · exact absurd h (by simp)
          · exact ⟨path, tokens, hpath, hwords, (Except.ok.inj h).symm⟩
      · exact absurd h (by simp)

variable (hread : readPath? runtime = some (path, tokens))
include hread

/-- Once the runtime is known, only the names and the code can be wrong. -/
theorem render_cases :
    (hasCodeWords spec = false ∧
      spec.render runtime = .error (.invalidName spec.target.qualifiedName)) ∨
    (hasCodeWords spec = true ∧ holdsVerbatim? (fileTokens spec tokens) = none ∧
      spec.render runtime = .error (.malformed spec.target.qualifiedName)) ∨
    (hasCodeWords spec = true ∧ holdsVerbatim? (fileTokens spec tokens) = some true ∧
      spec.render runtime = .error (.withoutLayout spec.target.qualifiedName)) ∨
    (hasCodeWords spec = true ∧ holdsVerbatim? (fileTokens spec tokens) = some false ∧
      ∃ source, spec.render runtime = .ok source) := by
  unfold render
  split
  · next hnone => exact absurd (hread.symm.trans hnone) (by simp)
  · next path' tokens' hsome =>
      obtain ⟨-, rfl⟩ := Prod.mk.inj (Option.some.inj (hread.symm.trans hsome))
      split
      · next hcode =>
          split
          · next hform => exact .inr (.inl ⟨hcode, hform, rfl⟩)
          · next hform => exact .inr (.inr (.inl ⟨hcode, hform, rfl⟩))
          · next hform => exact .inr (.inr (.inr ⟨hcode, hform, _, rfl⟩))
      · next hcode => exact .inl ⟨Bool.eq_false_iff.2 hcode, rfl⟩

theorem render_of_invalidName (h : hasCodeWords spec = false) :
    spec.render runtime = .error (.invalidName spec.target.qualifiedName) := by
  rcases render_cases hread with ⟨-, hrender⟩ | ⟨hcode, -⟩ | ⟨hcode, -⟩ | ⟨hcode, -⟩
  · exact hrender
  all_goals exact absurd (h.symm.trans hcode) (by decide)

theorem render_of_malformed (h : hasCodeWords spec = true)
    (htokens : holdsVerbatim? (fileTokens spec tokens) = none) :
    spec.render runtime = .error (.malformed spec.target.qualifiedName) := by
  rcases render_cases hread with ⟨hcode, -⟩ | ⟨-, -, hrender⟩ | ⟨-, hform, -⟩ |
    ⟨-, hform, -⟩
  · exact absurd (hcode.symm.trans h) (by decide)
  · exact hrender
  all_goals exact absurd (htokens.symm.trans hform) (by simp)

theorem render_of_wellFormed (h : hasCodeWords spec = true)
    (htokens : holdsVerbatim? (fileTokens spec tokens) = some false) :
    ∃ source, spec.render runtime = .ok source := by
  rcases render_cases hread with ⟨hcode, -⟩ | ⟨-, hform, -⟩ | ⟨-, hform, -⟩ |
    ⟨-, -, hrender⟩
  · exact absurd (hcode.symm.trans h) (by decide)
  · exact absurd (htokens.symm.trans hform) (by simp)
  · exact absurd (htokens.symm.trans hform) (by simp)
  · exact hrender

end MatcherSpec

end StructMatch
