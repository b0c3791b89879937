import Mathlib.Data.List.Infix
import StructMatch.Proofs.FileTree.Entry
import StructMatch.Proofs.Path.Component

/-!
# Routes through file trees

There are no links in a file tree, so a path leads to one location only, whatever the tree:
`locate_eq_along` says that following a path either fails or ends at the location that its
components spell out.  What the tree decides is whether the way there leads through directories, and
it goes on doing so when directories are only added, `locate_of_directories`.
-/

namespace StructMatch

/-! ## The location that a path spells out -/

/-- The location one component further. -/
def Location.next (location : Location) : Component → Location
  | .root => []
  | .here => location
  | .up => location.dropLast
  | .name name => location ++ [name]

/-- The location that components lead to. -/
def Location.along (location : Location) (components : List Component) : Location :=
  components.foldl Location.next location

/-- The location that a path leads to from a working directory. -/
def Path.location (path : Path) (cwd : Location) : Location := cwd.along path.components

theorem Location.along_append (location : Location) (components more : List Component) :
    location.along (components ++ more) = (location.along components).along more :=
  List.foldl_append

theorem Location.along_names (location : Location) (names : List String) :
    location.along (names.map .name) = location ++ names := by
  induction names generalizing location with
  | nil => simp [along]
  | cons name names ih =>
      have hstep : location.along ((name :: names).map .name) =
          (location ++ [name]).along (names.map .name) := rfl
      rw [hstep, ih, List.append_assoc, List.singleton_append]

/-! ## Paths that pass the location they lead to -/

/-- A path on which there is no way back stays below where it began. -/
theorem Location.prefix_along {location : Location} {components : List Component}
    (hroot : .root ∉ components) (hup : .up ∉ components) :
    location <+: location.along components := by
  induction components generalizing location with
  | nil => exact List.prefix_refl location
  | cons component components ih =>
      rw [List.mem_cons, not_or] at hroot hup
      have hrest : location.next component <+: location.along (component :: components) :=
        ih hroot.2 hup.2
      cases component with
      | root => exact absurd rfl hroot.1
      | here => exact hrest
      | up => exact absurd rfl hup.1
      | name name => exact (List.prefix_append location [name]).trans hrest

/-- Whether the way to the directory of a path passes the location that the path leads to. -/
def Path.PassesItself (path : Path) (cwd : Location) : Prop :=
  ∃ above ∈ path.components.dropLast.inits, above ≠ [] ∧ cwd.along above = path.location cwd

instance (path : Path) (cwd : Location) : Decidable (path.PassesItself cwd) :=
  inferInstanceAs (Decidable (∃ above ∈ path.components.dropLast.inits, _))

/-- A path to a file passes the file only if it goes back at some point. -/
theorem Path.PassesItself.up_mem {path : Path} {cwd : Location} (h : path.PassesItself cwd)
    {name : String} (hname : path.components.getLast? = some (.name name)) :
    .up ∈ path.components := by
  by_contra hup
  obtain ⟨front, hfront⟩ := List.getLast?_eq_some_iff.1 hname
  obtain ⟨above, habove, hne, hplace⟩ := h
  rw [hfront, List.dropLast_concat, List.mem_inits] at habove
  obtain ⟨more, rfl⟩ := habove
  rw [List.append_assoc] at hfront
  have hroot : Component.root ∉ more := by
    intro hmem
    refine path.root_notMem_tail ?_
    rw [hfront, List.tail_append_of_ne_nil hne]
    simp [hmem]
  have hback : Component.up ∉ more := by
    intro hmem
    exact hup (by rw [hfront]; simp [hmem])
  -- the rest of the way leads down, and the name leads further down still
  have hbelow : cwd.along above <+: (cwd.along above).along more :=
    Location.prefix_along hroot hback
  have hlocation : path.location cwd = (cwd.along above).along more ++ [name] := by
    rw [Path.location, hfront, Location.along_append, Location.along_append]
    rfl
  have hlength := congrArg List.length (hplace.trans hlocation)
  rw [List.length_append, List.length_singleton] at hlength
  have hle := hbelow.length_le
  omega

namespace FileTree

variable {tree tree' : FileTree} {cwd location : Location} {path : Path}

/-! ## Following a path -/

theorem step_eq_ok {component : Component} {next : Location}
    (h : tree.step location component = .ok next) :
    next = location.next component ∧
      (component = .root ∨ component = .here ∨ tree.entryAt? location = some .directory) := by
  have hdirectory : ∀ {after : Location}, step.onDirectory tree location after = .ok next →
      next = after ∧ tree.entryAt? location = some .directory := by
    intro after hstep
    unfold step.onDirectory at hstep
    split at hstep
    · next hentry => exact ⟨(Except.ok.inj hstep).symm, hentry⟩
    · exact absurd hstep (by simp)
    · exact absurd hstep (by simp)
  cases component with
  | root => exact ⟨(Except.ok.inj h).symm, Or.inl rfl⟩
  | here => exact ⟨(Except.ok.inj h).symm, Or.inr (Or.inl rfl)⟩
  | up =>
      obtain ⟨rfl, hentry⟩ := hdirectory h
      exact ⟨rfl, Or.inr (Or.inr hentry)⟩
  | name name =>
      obtain ⟨rfl, hentry⟩ := hdirectory h
      exact ⟨rfl, Or.inr (Or.inr hentry)⟩

theorem step_of_directory (h : tree.entryAt? location = some .directory) (component : Component) :
    tree.step location component = .ok (location.next component) := by
  cases component <;> simp [step, step.onDirectory, Location.next, h]

theorem locate_append (components more : List Component) :
    tree.locate cwd (components ++ more) =
      match tree.locate cwd components with
      | .error e => .error e
      | .ok location => tree.locate location more := by
  rw [locate, List.foldlM_append]
  cases h : List.foldlM tree.step cwd components <;> rw [locate, h] <;> rfl

theorem locate_concat_eq_ok {components : List Component} {component : Component} :
    tree.locate cwd (components ++ [component]) = .ok location ↔
      ∃ before, tree.locate cwd components = .ok before ∧
        tree.step before component = .ok location := by
  rw [locate_append]
  cases tree.locate cwd components with
  | error e => simp
  | ok before =>
      have hone : tree.locate before [component] = tree.step before component := by
        rw [locate, List.foldlM_cons]
        cases tree.step before component <;> rfl
      simp [hone]

/-- Following a path fails or leads where the path says. -/
theorem locate_eq_along {components : List Component}
    (h : tree.locate cwd components = .ok location) : location = cwd.along components := by
  induction components using List.reverseRecOn generalizing location with
  | nil => exact (Except.ok.inj h).symm
  | append_singleton components component ih =>
      obtain ⟨before, hbefore, hstep⟩ := locate_concat_eq_ok.1 h
      rw [(step_eq_ok hstep).1, ih hbefore, Location.along_append]
      rfl

/-- A path that can be followed can be followed when all directories are still there. -/
theorem locate_of_directories {components : List Component}
    (hkept : ∀ place, tree.entryAt? place = some .directory →
      tree'.entryAt? place = some .directory)
    (h : tree.locate cwd components = .ok location) :
    tree'.locate cwd components = .ok location := by
  induction components using List.reverseRecOn generalizing location with
  | nil => exact h
  | append_singleton components component ih =>
      obtain ⟨before, hbefore, hstep⟩ := locate_concat_eq_ok.1 h
      refine locate_concat_eq_ok.2 ⟨before, ih hbefore, ?_⟩
      obtain ⟨rfl, rfl | rfl | hentry⟩ := step_eq_ok hstep
      · rfl
      · rfl
      · exact step_of_directory (hkept _ hentry) component

/-- From a location there is a way to each entry below it. -/
theorem Lawful.locate_append_names (hlawful : tree.Lawful) {components : List Component}
    {names : List String} {entry : Entry} (h : tree.locate cwd components = .ok location)
    (hentry : tree.entryAt? (location ++ names) = some entry) :
    tree.locate cwd (components ++ names.map .name) = .ok (location ++ names) := by
  -- by induction from the last name on, for whatever is above an entry is a directory
  induction names using List.reverseRecOn generalizing entry with
  | nil => simpa using h
  | append_singleton names name ih =>
      have hdirectory : tree.entryAt? (location ++ names) = some .directory := by
        rw [← List.append_assoc] at hentry
        exact hlawful.directory_of_append (by simp) hentry
      rw [List.map_append, ← List.append_assoc, ← List.append_assoc]
      exact locate_concat_eq_ok.2 ⟨_, ih hdirectory, step_of_directory hdirectory _⟩

/-- Where a path leads to nothing, its last step is one down from a directory. -/
theorem Lawful.exists_name_of_locate (hlawful : tree.Lawful)
    (hcwd : tree.entryAt? cwd = some .directory) {components : List Component}
    (h : tree.locate cwd components = .ok location) (hentry : tree.entryAt? location = none) :
    ∃ above name, location = above ++ [name] ∧ .name name ∈ components ∧
      tree.entryAt? above = some .directory := by
  induction components using List.reverseRecOn generalizing location with
  | nil =>
      obtain rfl : cwd = location := Except.ok.inj h
      exact absurd hentry (by simp [hcwd])
  | append_singleton components component ih =>
      obtain ⟨before, hbefore, hstep⟩ := locate_concat_eq_ok.1 h
      obtain ⟨rfl, hcase⟩ := step_eq_ok hstep
      -- only a step down can lead to nothing: the parent of a directory is one
      cases component with
      | root => exact absurd hentry (by simp [Location.next, entryAt?_nil])
      | here =>
          obtain ⟨above, name, hlocation, hname, habove⟩ := ih hbefore hentry
          exact ⟨above, name, hlocation, List.mem_append_left _ hname, habove⟩
      | up =>
          rcases hcase with hcase | hcase | hcase
          · exact absurd hcase (by simp)
          · exact absurd hcase (by simp)
          · have hnothing : tree.entryAt? before.dropLast = none := hentry
            rw [hlawful.parent_of_entry hcase] at hnothing
            exact absurd hnothing (by simp)
      | name name =>
          rcases hcase with hcase | hcase | hcase
          · exact absurd hcase (by simp)
          · exact absurd hcase (by simp)
          · exact ⟨before, name, rfl, by simp, hcase⟩

/-! ## What paths lead to -/

theorem isDirectory_iff : tree.isDirectory cwd path = true ↔
    path.text ≠ "" ∧ ∃ location, tree.locate cwd path.components = .ok location ∧
      tree.entryAt? location = some .directory := by
  unfold isDirectory find
  by_cases htext : path.text = ""
  · simp [htext]
  · simp only [String.isEmpty_iff, htext, if_false]
    cases hlocate : tree.locate cwd path.components with
    | error e => simp
    | ok location =>
        cases hentry : tree.entryAt? location with
        | none => simp [hentry]
        | some entry =>
            cases entry with
            | directory => simp [hentry, htext]
            | file content => cases path.endsInDirectory <;> simp [hentry]

theorem readText_eq_ok_iff {text : String} : tree.readText cwd path = .ok text ↔
    path.text ≠ "" ∧ path.endsInDirectory = false ∧
      ∃ location, tree.locate cwd path.components = .ok location ∧
        tree.entryAt? location = some (.file (.text text)) := by
  unfold readText find
  by_cases htext : path.text = ""
  · simp [htext]
  · simp only [String.isEmpty_iff, htext, if_false]
    cases hlocate : tree.locate cwd path.components with
    | error e => simp
    | ok location =>
        cases hentry : tree.entryAt? location with
        | none => simp [hentry]
        | some entry =>
            cases entry with
            | directory => simp [hentry]
            | file content =>
                cases hends : path.endsInDirectory <;> cases content <;> simp [hentry, htext]

/-- What can be read depends on the entries only. -/
theorem readText_congr (h : ∀ place, tree'.entryAt? place = tree.entryAt? place) :
    tree'.readText cwd path = tree.readText cwd path := by
  have hstep : tree'.step = tree.step := by
    funext location component
    cases component <;> simp only [step, step.onDirectory, h]
  unfold readText find locate
  simp only [hstep, h]

/-- The text that is read from a path is that of the file at its location. -/
theorem entryAt?_of_readText {text : String} (h : tree.readText cwd path = .ok text) :
    tree.entryAt? (path.location cwd) = some (.file (.text text)) := by
  obtain ⟨-, -, location, hlocate, hentry⟩ := readText_eq_ok_iff.1 h
  rw [Path.location, ← locate_eq_along hlocate, hentry]

end FileTree

end StructMatch
