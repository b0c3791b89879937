import StructMatch.FileTree.Replacement
import StructMatch.Proofs.FileTree.Route

/-!
# Making directories

Making a directory and those above it only ever adds directories where nothing was, whether it
succeeds or not, and on success the path leads to a directory.
-/

namespace StructMatch

/-! ## Proper names along a path -/

namespace Path

/-- Every name along a path is a proper one. -/
theorem isFileName_of_mem_components {path : Path} {name : String}
    (h : .name name ∈ path.components) : IsFileName name := by
  have hsep := separator_notMem_pieces path
  rw [components_eq] at h
  cases hpieces : path.pieces with
  | nil => simp [hpieces, componentsOf] at h
  | cons first rest =>
      rw [hpieces] at hsep h
      rw [componentsOf, List.mem_append, Option.mem_toList, List.mem_filterMap] at h
      rcases h with hfirst | ⟨piece, hmem, hpiece⟩
      · unfold firstComponent? at hfirst
        split at hfirst
        · split at hfirst <;> simp at hfirst
        · split at hfirst
          · simp at hfirst
          · exact isFileName_of_component? (hsep first (by simp)) hfirst
      · exact isFileName_of_component? (hsep piece (by simp [hmem])) hpiece

end Path

namespace FileTree

variable {tree tree' made : FileTree} {cwd location place : Location} {refusals : Refusals}

/-! ## Adding directories -/

/-- Whether the second tree is the first one with directories added where nothing was. -/
def AddsDirectories (tree tree' : FileTree) : Prop :=
  ∀ place, tree'.entryAt? place = tree.entryAt? place ∨
    (tree.entryAt? place = none ∧ tree'.entryAt? place = some .directory)

namespace AddsDirectories

theorem refl (tree : FileTree) : AddsDirectories tree tree := fun _ => Or.inl rfl

theorem trans (h : AddsDirectories tree made) (h' : AddsDirectories made tree') :
    AddsDirectories tree tree' := by
  intro place
  rcases h place with hfirst | ⟨hnone, hfirst⟩
  · rcases h' place with hsecond | ⟨hmade, hsecond⟩
    · exact Or.inl (hsecond.trans hfirst)
    · exact Or.inr ⟨hfirst ▸ hmade, hsecond⟩
  · rcases h' place with hsecond | ⟨-, hsecond⟩
    · exact Or.inr ⟨hnone, hsecond.trans hfirst⟩
    · exact Or.inr ⟨hnone, hsecond⟩

theorem entryAt?_of_some (h : AddsDirectories tree tree') {entry : Entry}
    (hentry : tree.entryAt? place = some entry) : tree'.entryAt? place = some entry := by
  rcases h place with heq | ⟨hnone, -⟩
  · rw [heq, hentry]
  · rw [hentry] at hnone
    exact absurd hnone (by simp)

theorem locate (h : AddsDirectories tree tree') {components : List Component}
    (hlocate : tree.locate cwd components = .ok location) :
    tree'.locate cwd components = .ok location :=
  locate_of_directories (fun _ => h.entryAt?_of_some) hlocate

end AddsDirectories

/-! ## Making one directory -/

theorem makeDirectory_eq_ok {components : List Component}
    (h : tree.makeDirectory refusals cwd components = .ok made) :
    ∃ location, tree.locate cwd components = .ok location ∧ tree.entryAt? location = none ∧
      made = tree.put location .directory := by
  unfold makeDirectory at h
  split at h
  · exact absurd h (by simp)
  · next location hlocate =>
      split at h
      · exact absurd h (by simp)
      · exact absurd h (by simp)
      · next hentry _ => exact ⟨location, hlocate, hentry, (Except.ok.inj h).symm⟩

theorem makeDirectory_of_entry {components : List Component} {entry : Entry}
    (hlocate : tree.locate cwd components = .ok location)
    (hentry : tree.entryAt? location = some entry) :
    tree.makeDirectory refusals cwd components = .error .alreadyExists := by
  simp [makeDirectory, hlocate, hentry]

theorem addsDirectories_put (h : tree.entryAt? location = none) :
    AddsDirectories tree (tree.put location .directory) := by
  intro place
  by_cases heq : place = location
  · subst heq
    -- the top is a directory at any time, so it is not where nothing was
    have hne : place ≠ [] := by
      rintro rfl
      exact absurd h (by simp [entryAt?_nil])
    exact Or.inr ⟨h, entryAt?_put_self hne⟩
  · exact Or.inl (entryAt?_put_of_ne heq)

/-- A directory with a proper path keeps the tree lawful. -/
theorem Lawful.makeDirectory (hlawful : tree.Lawful) (hcwd : tree.entryAt? cwd = some .directory)
    {components : List Component} (hnames : ∀ name, .name name ∈ components → IsFileName name)
    (h : tree.makeDirectory refusals cwd components = .ok made) : made.Lawful := by
  obtain ⟨location, hlocate, hentry, rfl⟩ := makeDirectory_eq_ok h
  obtain ⟨above, name, rfl, hname, habove⟩ := hlawful.exists_name_of_locate hcwd hlocate hentry
  refine hlawful.put (by simp) ?_ (by simpa using habove) fun _ => rfl
  intro other hother
  rcases List.mem_append.1 hother with hmem | hmem
  · exact hlawful.isFileName_of_entry habove other hmem
  · rw [List.mem_singleton.1 hmem]
    exact hnames name hname

/-! ## Making several directories -/

/-- The trees that come about by making one directory after the other along parts of a path. -/
inductive MakesDirectories (cwd : Location) (components : List Component) :
    FileTree → FileTree → Prop where
  | none (tree : FileTree) : MakesDirectories cwd components tree tree
  | more {tree made tree' : FileTree} {refusals : Refusals} {above : List Component} :
      above ⊆ components → tree.makeDirectory refusals cwd above = .ok made →
      MakesDirectories cwd components made tree' → MakesDirectories cwd components tree tree'

namespace MakesDirectories

variable {components : List Component}

theorem trans (h : MakesDirectories cwd components tree made)
    (h' : MakesDirectories cwd components made tree') :
    MakesDirectories cwd components tree tree' := by
  induction h with
  | none tree => exact h'
  | more habove hmade _ ih => exact .more habove hmade (ih h')

theorem mono {more : List Component} (hsub : components ⊆ more)
    (h : MakesDirectories cwd components tree tree') : MakesDirectories cwd more tree tree' := by
  induction h with
  | none tree => exact .none tree
  | more habove hmade _ ih => exact .more (fun _ hc => hsub (habove hc)) hmade ih

theorem addsDirectories (h : MakesDirectories cwd components tree tree') :
    AddsDirectories tree tree' := by
  induction h with
  | none tree => exact .refl tree
  | more _ hmade _ ih =>
      obtain ⟨location, -, hentry, rfl⟩ := makeDirectory_eq_ok hmade
      exact (addsDirectories_put hentry).trans ih

theorem lawful (h : MakesDirectories cwd components tree tree') (hlawful : tree.Lawful)
    (hcwd : tree.entryAt? cwd = some .directory)
    (hnames : ∀ name, .name name ∈ components → IsFileName name) : tree'.Lawful := by
  induction h with
  | none tree => exact hlawful
  | more habove hmade _ ih =>
      obtain ⟨location, -, hentry, rfl⟩ := makeDirectory_eq_ok hmade
      exact ih (hlawful.makeDirectory hcwd (fun name hname => hnames name (habove hname)) hmade)
        ((addsDirectories_put hentry).entryAt?_of_some hcwd)

/-- Directories that were made have names along the path. -/
theorem entryAt?_of_notMem (h : MakesDirectories cwd components tree tree')
    (hlawful : tree.Lawful) (hcwd : tree.entryAt? cwd = some .directory)
    (hnames : ∀ name, .name name ∈ components → IsFileName name) {name : String}
    (hname : .name name ∉ components) (place : Location) :
    tree'.entryAt? (place ++ [name]) = tree.entryAt? (place ++ [name]) := by
  induction h with
  | none tree => rfl
  | more habove hmade _ ih =>
      have hlawful' :=
        hlawful.makeDirectory hcwd (fun name hname => hnames name (habove hname)) hmade
      obtain ⟨location, hlocate, hentry, rfl⟩ := makeDirectory_eq_ok hmade
      obtain ⟨above, other, rfl, hother, -⟩ := hlawful.exists_name_of_locate hcwd hlocate hentry
      rw [ih hlawful' ((addsDirectories_put hentry).entryAt?_of_some hcwd), entryAt?_put_of_ne]
      intro hplace
      obtain ⟨-, rfl⟩ := List.append_singleton_inj.1 hplace
      exact hname (habove hother)

end MakesDirectories

/-- Accepting what came of making a directory: at most that directory was made, and a path that is
accepted leads to a directory. -/
theorem acceptDirectory_makeDirectory (refusals : Refusals) (cwd : Location) (tree : FileTree)
    (components : List Component) :
    let accepted := acceptDirectory cwd tree components (tree.makeDirectory refusals cwd components)
    MakesDirectories cwd components tree accepted.1 ∧
      (accepted.2 = .ok () → ∃ location, accepted.1.locate cwd components = .ok location ∧
        accepted.1.entryAt? location = some .directory) := by
  dsimp only
  cases hmake : tree.makeDirectory refusals cwd components with
  | ok made =>
      refine ⟨.more (List.Subset.refl _) hmake (.none made), fun _ => ?_⟩
      obtain ⟨location, hlocate, hentry, rfl⟩ := makeDirectory_eq_ok hmake
      refine ⟨location, (addsDirectories_put hentry).locate hlocate, ?_⟩
      refine entryAt?_put_self ?_
      rintro rfl
      exact absurd hentry (by simp [entryAt?_nil])
  | error e =>
      -- a failure is accepted if there is a directory all the same
      unfold acceptDirectory
      split
      · next heq => exact absurd heq (by simp)
      · split
        · next hfound =>
            refine ⟨.none tree, fun _ => ?_⟩
            cases hlocate : tree.locate cwd components with
            | error e => simp [hlocate, Except.map] at hfound
            | ok location =>
                rw [hlocate] at hfound
                exact ⟨location, rfl, Except.ok.inj hfound⟩
        · exact ⟨.none tree, fun h => absurd h (by simp)⟩

theorem makeDirectories_of_missing {component : Component} {above : List Component}
    (h : tree.makeDirectory refusals cwd (component :: above).reverse = .error .notFound) :
    makeDirectories refusals cwd tree (component :: above) =
      match makeDirectories refusals cwd tree above with
      | (made, .ok ()) =>
        acceptDirectory cwd made (component :: above).reverse
          (made.makeDirectory refusals cwd (component :: above).reverse)
      | (made, .error e) => (made, .error e) := by
  have hstep := makeDirectories.eq_2 refusals cwd tree component above
  rw [h] at hstep
  exact hstep

theorem makeDirectories_of_ne {component : Component} {above : List Component}
    (h : tree.makeDirectory refusals cwd (component :: above).reverse ≠ .error .notFound) :
    makeDirectories refusals cwd tree (component :: above) =
      acceptDirectory cwd tree (component :: above).reverse
        (tree.makeDirectory refusals cwd (component :: above).reverse) := by
  cases hmake : tree.makeDirectory refusals cwd (component :: above).reverse with
  | ok made => simp only [makeDirectories, hmake]
  | error e =>
      rw [hmake] at h
      cases e <;> first
        | exact absurd rfl h
        | simp only [makeDirectories, hmake]

/-- Making a directory and those above it. -/
theorem makeDirectories_spec (refusals : Refusals) (cwd : Location) (tree : FileTree)
    (components : List Component) :
    let left := makeDirectories refusals cwd tree components
    MakesDirectories cwd components tree left.1 ∧
      (left.2 = .ok () → components ≠ [] →
        ∃ location, left.1.locate cwd components.reverse = .ok location ∧
          left.1.entryAt? location = some .directory) := by
  dsimp only
  induction components with
  | nil => exact ⟨.none tree, fun _ h => absurd rfl h⟩
  | cons component above ih =>
      have hreverse : (component :: above).reverse ⊆ component :: above :=
        fun c hc => List.mem_reverse.1 hc
      by_cases hmissing :
          tree.makeDirectory refusals cwd (component :: above).reverse = .error .notFound
      · -- the directories above come first, and then this one is made in what they left
        rw [makeDirectories_of_missing hmissing]
        cases hmake : makeDirectories refusals cwd tree above with
        | mk made outcome =>
            rw [hmake] at ih
            have habove := ih.1.mono (List.subset_cons_self component above)
            cases outcome with
            | error e => exact ⟨habove, fun h => absurd h (by simp)⟩
            | ok =>
                have hlast :=
                  acceptDirectory_makeDirectory refusals cwd made (component :: above).reverse
                exact ⟨habove.trans (hlast.1.mono hreverse), fun h _ => hlast.2 h⟩
      · rw [makeDirectories_of_ne hmissing]
        have hlast := acceptDirectory_makeDirectory refusals cwd tree (component :: above).reverse
        exact ⟨hlast.1.mono hreverse, fun h _ => hlast.2 h⟩

/-- Accepting what came of making a directory changes nothing but its location. -/
theorem entryAt?_acceptDirectory {components : List Component}
    (h : place ≠ cwd.along components) :
    (acceptDirectory cwd tree components
      (tree.makeDirectory refusals cwd components)).1.entryAt? place = tree.entryAt? place := by
  cases hmake : tree.makeDirectory refusals cwd components with
  | ok made =>
      obtain ⟨location, hlocate, -, rfl⟩ := makeDirectory_eq_ok hmake
      rw [locate_eq_along hlocate]
      exact entryAt?_put_of_ne h
  | error e =>
      unfold acceptDirectory
      split
      · next heq => exact absurd heq (by simp)
      · split <;> rfl

/-- Making a directory and those above it changes nothing but the locations along its path. -/
theorem entryAt?_makeDirectories {components : List Component}
    (h : ∀ above, above ≠ [] → above <+: components.reverse → place ≠ cwd.along above) :
    (makeDirectories refusals cwd tree components).1.entryAt? place = tree.entryAt? place := by
  induction components generalizing tree with
  | nil => rfl
  | cons component above ih =>
      have hself (tree : FileTree) :
          (acceptDirectory cwd tree (component :: above).reverse
            (tree.makeDirectory refusals cwd (component :: above).reverse)).1.entryAt? place =
          tree.entryAt? place :=
        entryAt?_acceptDirectory (h _ (by simp) (List.prefix_refl _))
      have habove :
          (makeDirectories refusals cwd tree above).1.entryAt? place = tree.entryAt? place := by
        refine ih fun part hne hpart => h part hne (hpart.trans ?_)
        rw [List.reverse_cons]
        exact List.prefix_append _ _
      by_cases hmissing :
          tree.makeDirectory refusals cwd (component :: above).reverse = .error .notFound
      · rw [makeDirectories_of_missing hmissing]
        cases hmake : makeDirectories refusals cwd tree above with
        | mk made outcome =>
            rw [hmake] at habove
            cases outcome with
            | error e => exact habove
            | ok => exact (hself made).trans habove
      · rw [makeDirectories_of_ne hmissing]
        exact hself tree

/-- Where the path of a directory leads to one, nothing is made. -/
theorem makeDirectories_of_directory {components : List Component}
    (hlocate : tree.locate cwd components.reverse = .ok location)
    (hentry : tree.entryAt? location = some .directory) :
    makeDirectories refusals cwd tree components = (tree, .ok ()) := by
  cases components with
  | nil => rfl
  | cons component above =>
      have hmake : tree.makeDirectory refusals cwd (component :: above).reverse =
          .error .alreadyExists := makeDirectory_of_entry hlocate hentry
      have hne : tree.makeDirectory refusals cwd (component :: above).reverse ≠
          .error .notFound := by
        rw [hmake]
        simp
      rw [makeDirectories_of_ne hne, hmake]
      simp only [acceptDirectory, hlocate, hentry, Except.map]

end FileTree

end StructMatch
