import Mathlib.Data.List.DropRight
import StructMatch.Proofs.Path.Component

/-!
# What is left of a path

A path that leads through another one is put together again from the pieces that are left, less
those at the two ends that stand for nothing.  If what is left are names, the new path leads along
these names, however the two paths are written: `components_after?`.  After a path that leads
anywhere at all, this holds of whatever is left, `components_after?_of_ne_nil`.  Nothing is left
only of a path that does not lead through the other one, `after?_eq_none_iff`.
-/

namespace StructMatch.Path

/-! ## Steps of a path -/

/-- A piece with the component that it stands for inside of a path. -/
def IsPlainStep (step : List Char × Option Component) : Prop :=
  '/' ∉ step.1 ∧ component? step.1 = step.2

/-- Steps are plain after the first one, and the first one is where it stands for a name or
nothing. -/
theorem isPlainStep_of_mem_steps {path : Path} {step : List Char × Option Component}
    (hstep : step ∈ path.steps)
    (h : step ∈ path.steps.tail ∨ ∀ component ∈ step.2, ∃ name, component = .name name) :
    IsPlainStep step := by
  have hsep := separator_notMem_pieces path
  unfold steps at hstep h
  cases hpieces : path.pieces with
  | nil => simp [hpieces] at hstep
  | cons piece rest =>
      rw [hpieces] at hsep hstep h
      have hplain (hrest : step ∈ rest.map fun piece => (piece, component? piece)) :
          IsPlainStep step := by
        obtain ⟨other, hother, rfl⟩ := List.mem_map.1 hrest
        exact ⟨hsep other (List.mem_cons_of_mem _ hother), rfl⟩
      rcases h with hrest | hname
      · exact hplain hrest
      rw [List.mem_cons] at hstep
      rcases hstep with rfl | hrest
      · refine ⟨hsep piece (by simp), ?_⟩
        -- the first piece can stand for more than the others, but not for a name
        dsimp only at hname ⊢
        split at hname
        · obtain ⟨name, hroot⟩ := hname .root rfl
          exact absurd hroot (by simp)
        · split at hname
          · obtain ⟨name, hhere⟩ := hname .here rfl
            exact absurd hhere (by simp)
          · next habsolute hhere => rw [if_neg habsolute, if_neg hhere]
      · exact hplain hrest

/-- The components of a path that is put together from plain steps, the first of which stands for
something. -/
theorem components_intercalate {first : List Char × Option Component}
    {rest : List (List Char × Option Component)} (hfirst : first.2.isSome = true)
    (h : ∀ step ∈ first :: rest, IsPlainStep step) :
    (⟨"/".intercalate ((first :: rest).map fun step => String.ofList step.1)⟩ :
      Path).components = (first :: rest).filterMap (·.2) := by
  obtain ⟨-, hcomponent⟩ := h first List.mem_cons_self
  obtain ⟨component, hsome⟩ := Option.isSome_iff_exists.1 hfirst
  have hpieces : (⟨"/".intercalate ((first :: rest).map fun step => String.ofList step.1)⟩ :
      Path).pieces = (first :: rest).map (·.1) := by
    have hsep : ∀ piece ∈ (first :: rest).map (·.1), '/' ∉ piece := by
      intro piece hpiece
      obtain ⟨step, hstep, rfl⟩ := List.mem_map.1 hpiece
      exact (h step hstep).1
    have hparts := pieces_intercalate (by simp) hsep
    rwa [List.map_map] at hparts
  have hplain : firstComponent? first.1 (rest.map (·.1)) = first.2 := by
    have hempty : first.1 ≠ [] := by
      intro hempty
      rw [hempty, hsome] at hcomponent
      exact absurd hcomponent (by simp [component?])
    have hhere : first.1 ≠ ['.'] := by
      intro hhere
      rw [hhere, hsome] at hcomponent
      exact absurd hcomponent (by simp [component?])
    rw [firstComponent?, if_neg hempty, if_neg hhere, hcomponent]
  have hrest : (rest.map (·.1)).filterMap component? = rest.filterMap (·.2) := by
    rw [List.filterMap_map]
    exact List.filterMap_congr fun step hstep => (h step (List.mem_cons_of_mem _ hstep)).2
  rw [components_eq, hpieces, List.map_cons, componentsOf, hplain, hrest, List.filterMap_cons]
  cases first.2 <;> simp

/-! ## Steps that are left -/

/-- What is left after the components of some first steps are the other steps, with no more before
them than what stands for nothing. -/
theorem afterGo_append (front back : List (List Char × Option Component)) :
    ∃ blank, after?.go (front.filterMap (·.2)) (front ++ back) = some (blank ++ back) ∧
      ∀ step ∈ blank, step.2 = none := by
  induction front with
  | nil => exact ⟨[], by simp [after?.go], by simp⟩
  | cons step front ih =>
      obtain ⟨piece, component⟩ := step
      cases component with
      | none =>
          rw [List.filterMap_cons_none rfl, List.cons_append]
          cases hbase : front.filterMap (·.2) with
          | nil =>
              refine ⟨(piece, none) :: front, by simp [after?.go], fun step hstep => ?_⟩
              rcases List.mem_cons.1 hstep with rfl | hstep
              · rfl
              · exact List.filterMap_eq_nil_iff.1 hbase step hstep
          | cons b base =>
              rw [hbase] at ih
              exact ih
      | some component =>
          have hfront : ((piece, some component) :: front).filterMap (·.2) =
              component :: front.filterMap (·.2) := rfl
          rw [hfront, List.cons_append, after?.go, if_pos rfl]
          exact ih

theorem filterMap_dropWhile_isNone (steps : List (List Char × Option Component)) :
    (steps.dropWhile (·.2.isNone)).filterMap (·.2) = steps.filterMap (·.2) := by
  induction steps with
  | nil => rfl
  | cons step steps ih =>
      obtain ⟨piece, component⟩ := step
      cases component with
      | none => exact ih
      | some component => rfl

theorem filterMap_rdropWhile_isNone (steps : List (List Char × Option Component)) :
    (steps.rdropWhile (·.2.isNone)).filterMap (·.2) = steps.filterMap (·.2) := by
  rw [List.rdropWhile, List.filterMap_reverse, filterMap_dropWhile_isNone, List.filterMap_reverse,
    List.reverse_reverse]

/-- What is left of a path after another one leads along the components of the steps that are
left, if all of these are plain. -/
theorem components_after?_of_steps {path base : Path}
    {front back : List (List Char × Option Component)} (hsteps : path.steps = front ++ back)
    (hfront : front.filterMap (·.2) = base.components)
    (hplain : ∀ step ∈ back, IsPlainStep step) :
    ∃ rest, path.after? base = some rest ∧ rest.components = back.filterMap (·.2) := by
  obtain ⟨blank, hgo, hblank⟩ := afterGo_append front back
  -- of the steps that are left, only those that stand for nothing are dropped
  let left := (back.dropWhile (·.2.isNone)).rdropWhile (·.2.isNone)
  have hleft : path.after? base =
      some ⟨"/".intercalate (left.map fun step => String.ofList step.1)⟩ := by
    rw [hfront, ← hsteps] at hgo
    rw [after?, hgo, Option.map_some,
      List.dropWhile_append_of_pos fun step hstep => by simp [hblank step hstep]]
    rfl
  have hcomponents : left.filterMap (·.2) = back.filterMap (·.2) := by
    rw [filterMap_rdropWhile_isNone, filterMap_dropWhile_isNone]
  refine ⟨_, hleft, ?_⟩
  have hleading : left <+: back.dropWhile (·.2.isNone) := List.rdropWhile_prefix _ _
  rw [← hcomponents]
  cases hsplit : left with
  | nil => rfl
  | cons first rest =>
      refine components_intercalate ?_ fun step hstep => hplain step ?_
      · rw [hsplit] at hleading
        obtain ⟨more, hmore⟩ := hleading
        have hhead := List.head?_dropWhile_not (fun step => step.2.isNone) back
        rw [← hmore] at hhead
        simpa [Option.isNone_eq_false_iff] using hhead
      · exact List.dropWhile_subset _ (hleading.subset (by rw [hsplit]; exact hstep))

/-- What is left of a path after another one that it goes on from by names leads along these
names. -/
theorem components_after? {path base : Path} {names : List String}
    (h : path.components = base.components ++ names.map .name) :
    ∃ rest, path.after? base = some rest ∧ rest.components = names.map .name := by
  obtain ⟨front, back, hsteps, hfront, hback⟩ := List.filterMap_eq_append_iff.1 h
  rw [← hback]
  refine components_after?_of_steps hsteps hfront fun step hbehind =>
    isPlainStep_of_mem_steps (hsteps ▸ List.mem_append_right _ hbehind) (.inr ?_)
  intro component hcomponent
  have hcomponents : component ∈ names.map Component.name := by
    rw [← hback]
    exact List.mem_filterMap.2 ⟨step, hbehind, hcomponent⟩
  obtain ⟨name, -, rfl⟩ := List.mem_map.1 hcomponents
  exact ⟨name, rfl⟩

/-- What is left of a path after one that has components leads along whatever is left. -/
theorem components_after?_of_ne_nil {path base : Path} {left : List Component}
    (hbase : base.components ≠ []) (h : path.components = base.components ++ left) :
    ∃ rest, path.after? base = some rest ∧ rest.components = left := by
  obtain ⟨front, back, hsteps, hfront, rfl⟩ := List.filterMap_eq_append_iff.1 h
  refine components_after?_of_steps hsteps hfront fun step hbehind =>
    isPlainStep_of_mem_steps (hsteps ▸ List.mem_append_right _ hbehind) (.inl ?_)
  -- the first step is one of those that lead along the base
  obtain ⟨first, others, rfl⟩ : ∃ first others, front = first :: others :=
    List.exists_cons_of_ne_nil fun hnil => hbase (by rw [← hfront, hnil]; rfl)
  rw [hsteps, List.cons_append, List.tail_cons]
  exact List.mem_append_right _ hbehind

theorem prefix_of_afterGo {base : List Component} {steps left : List (List Char × Option Component)}
    (h : after?.go base steps = some left) : base <+: steps.filterMap (·.2) := by
  induction steps generalizing base with
  | nil =>
      cases base with
      | nil => exact List.nil_prefix
      | cons b base => exact absurd h (by simp [after?.go])
  | cons step steps ih =>
      obtain ⟨piece, component⟩ := step
      cases base with
      | nil => exact List.nil_prefix
      | cons b base =>
          cases component with
          | none => exact ih h
          | some c =>
              rw [after?.go] at h
              split at h
              · next hsame =>
                  rw [hsame]
                  exact List.cons_prefix_cons.2 ⟨rfl, ih h⟩
              · exact absurd h (by simp)

/-- A path has no remainder exactly if it does not lead through the other one. -/
theorem after?_eq_none_iff {path base : Path} :
    path.after? base = none ↔ ¬ base.components <+: path.components := by
  rw [after?, Option.map_eq_none_iff]
  constructor
  · rintro hnone ⟨left, hleft⟩
    obtain ⟨front, back, hsteps, hfront, -⟩ := List.filterMap_eq_append_iff.1 hleft.symm
    obtain ⟨blank, hgo, -⟩ := afterGo_append front back
    rw [hfront, ← hsteps, hnone] at hgo
    exact absurd hgo (by simp)
  · intro h
    cases hgo : after?.go base.components path.steps with
    | none => rfl
    | some left => exact absurd (prefix_of_afterGo hgo) h

end StructMatch.Path
