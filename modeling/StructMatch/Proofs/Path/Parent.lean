import StructMatch.Proofs.Path.Component

/-!
# Going up

The parent of a path has its components but the last one, `components_of_parent?`, and only the root
and the empty path have no parent, `components_of_no_parent`.  So going up step by step passes by
every path above the first one: the paths above a path are those above its parent and the path
itself, `isAbove_iff_of_parent?`.
-/

namespace StructMatch.Path

variable {path above other : Path} {pieces : List (List Char)}

/-! ## What is dropped -/

/-- What is taken off the end of reversed pieces stands for nothing. -/
theorem exists_dropTrailing (h : pieces ≠ []) :
    dropTrailing pieces ≠ [] ∧
      ∃ dropped, pieces = dropped ++ dropTrailing pieces ∧ ∀ p ∈ dropped, component? p = none := by
  induction pieces with
  | nil => exact absurd rfl h
  | cons piece rest ih =>
      cases rest with
      | nil => exact ⟨by simp [dropTrailing], [], by simp [dropTrailing], by simp⟩
      | cons next more =>
          by_cases hp : piece = [] ∨ piece = ['.']
          · obtain ⟨hne, dropped, hsplit, hdropped⟩ := ih (by simp)
            have hstep : dropTrailing (piece :: next :: more) = dropTrailing (next :: more) := by
              simp only [dropTrailing, Bool.or_eq_true, decide_eq_true_eq, hp, if_true]
            rw [hstep]
            refine ⟨hne, piece :: dropped, by rw [List.cons_append, ← hsplit], ?_⟩
            intro p hmem
            rcases List.mem_cons.1 hmem with rfl | hmem
            · rcases hp with rfl | rfl <;> rfl
            · exact hdropped p hmem
          · have hstep : dropTrailing (piece :: next :: more) = piece :: next :: more := by
              simp only [dropTrailing, Bool.or_eq_true, decide_eq_true_eq, hp, if_false]
            rw [hstep]
            exact ⟨by simp, [], by simp, by simp⟩

/-- So the pieces that are kept lead as far as all of them do. -/
theorem componentsOf_dropTrailing (h : pieces ≠ []) :
    componentsOf ((dropTrailing pieces).reverse ++ [[]]) =
      componentsOf (pieces.reverse ++ [[]]) := by
  obtain ⟨hkept, dropped, hsplit, hdropped⟩ := exists_dropTrailing h
  rw [← componentsOf_append_none (List.reverse_ne_nil_iff.2 hkept)
    fun p hp => hdropped p (List.mem_reverse.1 hp), ← List.reverse_append, ← hsplit]

/-- The components of a path are those of what is kept of its pieces. -/
theorem components_eq_kept (h : path.pieces ≠ [[]]) :
    path.components = componentsOf ((dropTrailing path.pieces.reverse).reverse ++ [[]]) := by
  rw [componentsOf_dropTrailing (List.reverse_ne_nil_iff.2 path.pieces_ne_nil),
    List.reverse_reverse, componentsOf_concat_nil path.pieces_ne_nil h, components_eq]

/-- The components of the text that is put together from what is kept of some pieces. -/
theorem components_intercalate_kept (h : pieces ≠ []) (htop : dropTrailing pieces ≠ [[]])
    (hsep : ∀ p ∈ pieces, '/' ∉ p) :
    (⟨"/".intercalate ((dropTrailing pieces).reverse.map String.ofList)⟩ : Path).components =
      componentsOf (pieces.reverse ++ [[]]) := by
  obtain ⟨hkept, dropped, hsplit, -⟩ := exists_dropTrailing h
  have hparts : (dropTrailing pieces).reverse ≠ [] := List.reverse_ne_nil_iff.2 hkept
  have hone : (dropTrailing pieces).reverse ≠ [[]] := fun hone =>
    htop (by simpa using congrArg List.reverse hone)
  have hpart : ∀ p ∈ (dropTrailing pieces).reverse, '/' ∉ p := fun p hp => hsep p <| by
    rw [hsplit]
    exact List.mem_append_right _ (List.mem_reverse.1 hp)
  rw [components_eq, pieces_intercalate hparts hpart, ← componentsOf_concat_nil hparts hone,
    componentsOf_dropTrailing h]

/-- A piece of a text that is not empty and not a dot stands for something. -/
theorem exists_component? {piece : List Char} (h : piece ≠ [] ∧ piece ≠ ['.']) :
    ∃ component, component? piece = some component ∧ component ≠ .root := by
  unfold component?
  split
  · next hnil => exact absurd rfl h.1
  · next hhere => exact absurd rfl h.2
  · exact ⟨_, rfl, by simp⟩
  · exact ⟨_, rfl, by simp⟩

/-! ## The parent of a path -/

/-- The parent of a path has its components but the last one. -/
theorem components_of_parent? (h : path.parent? = some above) :
    ∃ last, last ≠ .root ∧ path.components = above.components ++ [last] := by
  have hpieces : path.pieces ≠ [[]] := by
    intro hempty
    simp [parent?, hempty, dropTrailing] at h
  rw [components_eq_kept hpieces]
  obtain ⟨-, dropped, hsplit, -⟩ :=
    exists_dropTrailing (List.reverse_ne_nil_iff.2 path.pieces_ne_nil)
  unfold parent? at h
  split at h
  · exact absurd h (by simp)
  · exact absurd h (by simp)
  · next piece hpiece heq =>
      -- a single piece that is not empty is the only component
      obtain rfl := Option.some.inj h
      have hne : piece ≠ [] := fun hnil => hpiece (by rw [hnil])
      rw [heq, List.reverse_singleton, componentsOf_concat_nil (by simp) (by simpa using hne)]
      by_cases hhere : piece = ['.']
      · exact ⟨.here, by simp, by rw [hhere]; rfl⟩
      · obtain ⟨last, hlast, hroot⟩ := exists_component? ⟨hne, hhere⟩
        have hfirst : firstComponent? piece [] = some last := by
          rw [firstComponent?, if_neg hne, if_neg hhere, hlast]
        exact ⟨last, hroot, by rw [componentsOf, hfirst]; rfl⟩
  · next piece rest _ hrest heq =>
      -- the last piece that is kept is the last component, and the parent has what is before it
      obtain ⟨last, hlast, hroot⟩ := exists_component? (proper_of_dropTrailing heq hrest)
      have hreverse : rest.reverse ≠ [] := List.reverse_ne_nil_iff.2 hrest
      have hmore : rest.reverse ++ [piece] ≠ [[]] := fun hone =>
        hrest (List.length_eq_zero_iff.1 (by simpa using congrArg List.length hone))
      have hsep : ∀ p ∈ rest, '/' ∉ p := fun p hp => path.separator_notMem_pieces p <| by
        rw [← List.mem_reverse, hsplit, heq]
        exact List.mem_append_right _ (List.mem_cons_of_mem _ hp)
      refine ⟨last, hroot, ?_⟩
      rw [heq, List.reverse_cons, componentsOf_concat_nil (by simp) hmore,
        componentsOf_concat hreverse, hlast]
      split at h
      · next htop =>
          obtain rfl := Option.some.inj h
          rw [← componentsOf_dropTrailing hrest, htop]
          rfl
      · next htop =>
          obtain rfl := Option.some.inj h
          rw [components_intercalate_kept hrest (fun hone => htop hone) hsep]
          rfl

/-- Only the root and the empty path have no parent. -/
theorem components_of_no_parent (h : path.parent? = none) :
    path.components = [] ∨ path.components = [.root] := by
  by_cases hpieces : path.pieces = [[]]
  · rw [components_eq, hpieces]
    exact Or.inl rfl
  · rw [components_eq_kept hpieces]
    obtain ⟨hkept, -⟩ := exists_dropTrailing (List.reverse_ne_nil_iff.2 path.pieces_ne_nil)
    unfold parent? at h
    split at h
    · next heq => exact absurd heq hkept
    · next heq =>
        rw [heq]
        exact Or.inr rfl
    · exact absurd h (by simp)
    · split at h <;> exact absurd h (by simp)

/-- The directory of a path that ends in a name is the path before the name. -/
theorem parent?_join (path : Path) {name : String} (h : IsFileName name) :
    ∃ dir, (path.join ⟨name⟩).parent? = some dir ∧ dir.components = path.components := by
  have hjoin := components_join path h
  cases hparent : (path.join ⟨name⟩).parent? with
  | none =>
      obtain hnil | hroot := components_of_no_parent hparent
      · exact absurd (hjoin.symm.trans hnil) (by simp)
      · have hlast := congrArg List.getLast? (hjoin.symm.trans hroot)
        exact absurd hlast (by simp)
  | some dir =>
      obtain ⟨last, -, hlast⟩ := components_of_parent? hparent
      exact ⟨dir, rfl, (List.append_inj' (hlast.symm.trans hjoin) rfl).1⟩

/-! ## The paths above a path -/

/-- An absolute path begins at the root. -/
theorem isAbsolute_iff_root (path : Path) :
    path.isAbsolute = true ↔ path.components.head? = some .root := by
  rw [isAbsolute_iff, components_eq]
  constructor
  · rintro ⟨rest, hrest, hpieces⟩
    rw [hpieces, componentsOf, firstComponent?, if_pos rfl, if_neg hrest]
    rfl
  · intro hhead
    cases hpieces : path.pieces with
    | nil => exact absurd hpieces path.pieces_ne_nil
    | cons piece rest =>
        rw [hpieces, componentsOf, firstComponent?] at hhead
        by_cases hempty : piece = []
        · subst hempty
          refine ⟨rest, ?_, rfl⟩
          rintro rfl
          exact absurd hhead (by simp)
        · rw [if_neg hempty] at hhead
          by_cases hhere : piece = ['.']
          · exact absurd hhead (by simp [hhere])
          · obtain ⟨first, hfirst, hroot⟩ := exists_component? ⟨hempty, hhere⟩
            exact absurd hhead (by simp [hhere, hfirst, hroot])

theorem components_ne_nil_of_isAbsolute (h : path.isAbsolute = true) : path.components ≠ [] := by
  intro hnil
  rw [isAbsolute_iff_root, hnil] at h
  exact absurd h (by simp)

theorem isAbsolute_congr (h : other.components = path.components) :
    other.isAbsolute = path.isAbsolute := by
  rw [Bool.eq_iff_iff, isAbsolute_iff_root, isAbsolute_iff_root, h]

/-- Whether a path is the other one or lies above it: both are absolute or none of them is, and the
components of the other one go on from its own. -/
structure IsAbove (above path : Path) : Prop where
  isAbsolute_eq : above.isAbsolute = path.isAbsolute
  prefix_components : above.components <+: path.components

theorem IsAbove.refl (path : Path) : path.IsAbove path := ⟨rfl, List.prefix_rfl⟩

theorem IsAbove.trans (h : other.IsAbove above) (h' : above.IsAbove path) : other.IsAbove path :=
  ⟨h.isAbsolute_eq.trans h'.isAbsolute_eq, h.prefix_components.trans h'.prefix_components⟩

/-- The parent of a path lies above it. -/
theorem isAbove_of_parent? (h : path.parent? = some above) : above.IsAbove path := by
  obtain ⟨last, hroot, hlast⟩ := components_of_parent? h
  refine ⟨?_, hlast ▸ List.prefix_append _ _⟩
  rw [Bool.eq_iff_iff, isAbsolute_iff_root, isAbsolute_iff_root, hlast]
  cases above.components <;> simp [hroot]

/-- The paths above a path are those above its parent, and the path itself. -/
theorem isAbove_iff_of_parent? (h : path.parent? = some above) :
    other.IsAbove path ↔ other.components = path.components ∨ other.IsAbove above := by
  have habove := isAbove_of_parent? h
  constructor
  · rintro ⟨habsolute, hbegin⟩
    obtain ⟨last, -, hlast⟩ := components_of_parent? h
    rw [hlast, List.prefix_concat_iff, ← hlast] at hbegin
    exact hbegin.imp_right fun hbegin => ⟨habsolute.trans habove.isAbsolute_eq.symm, hbegin⟩
  · rintro (heq | hother)
    · exact ⟨isAbsolute_congr heq, heq ▸ List.prefix_rfl⟩
    · exact hother.trans habove

/-- Where there is no parent, there is no other path above. -/
theorem isAbove_iff_of_no_parent (h : path.parent? = none) :
    other.IsAbove path ↔ other.components = path.components := by
  refine ⟨fun hother => ?_, fun heq => ⟨isAbsolute_congr heq, heq ▸ List.prefix_rfl⟩⟩
  obtain ⟨habsolute, hbegin⟩ := hother
  rcases components_of_no_parent h with hnil | hroot
  · rw [hnil, List.prefix_nil] at hbegin
    rw [hbegin, hnil]
  · have hother : other.isAbsolute = true := by
      rw [habsolute, isAbsolute_iff_root, hroot]
      rfl
    refine hbegin.eq_of_length_le ?_
    rw [hroot]
    exact List.length_pos_iff.2 (components_ne_nil_of_isAbsolute hother)

end StructMatch.Path
