import StructMatch.Proofs.Batch.Generation
import StructMatch.Proofs.Command.ProjectRoot

/-!
# Finding the project again

The project of a working directory depends on the directories of the tree and on what has the name
of one of two files, the mark of a project and its configuration, `find_congr`.  A batch leaves both
alone, unless a directory that it makes for its matchers has such a name, `find_generatedAll`.
-/

namespace StructMatch

open FileTree

/-! ## The path of a location -/

/-- The path of a location leads to it from the root. -/
theorem Location.components_path {location : Location} (h : ∀ name ∈ location, IsFileName name) :
    (Location.path location).components = .root :: location.map .name := by
  have hnames : (location.map String.toList).filterMap Path.component? = location.map .name := by
    rw [List.filterMap_map, ← List.filterMap_eq_map]
    exact List.filterMap_congr fun name hname => Path.component?_of_isFileName (h name hname)
  cases location with
  | nil => rfl
  | cons name names =>
      have htext : Location.path (name :: names) =
          ⟨"/".intercalate (([] :: (name :: names).map String.toList).map String.ofList)⟩ := by
        rw [List.map_cons, List.map_map, String.intercalate_cons_of_ne_nil (by simp)]
        simp [Location.path, Function.comp_def]
      have hseparator : ∀ piece ∈ [] :: (name :: names).map String.toList, '/' ∉ piece := by
        intro piece hpiece
        rcases List.mem_cons.1 hpiece with rfl | hpiece
        · exact List.not_mem_nil
        · obtain ⟨other, hother, rfl⟩ := List.mem_map.1 hpiece
          exact (h other hother).no_separator
      have hpieces := Path.pieces_intercalate (by simp) hseparator
      rw [Path.components_eq, htext, hpieces, Path.componentsOf, hnames]
      rfl

/-- The path of a location is absolute. -/
theorem Location.isAbsolute_path (location : Location) :
    (Location.path location).isAbsolute = true := by
  simp [Path.isAbsolute, Location.path]

namespace FileTree

variable {tree tree' : FileTree} {cwd start location : Location} {path root : Path} {name : String}

/-- A path above a directory leads to a directory. -/
theorem Lawful.locate_of_isAbove (hlawful : tree.Lawful) (cwd : Location)
    (hstart : tree.entryAt? start = some .directory) (h : path.IsAbove (Location.path start)) :
    ∃ location, tree.locate cwd path.components = .ok location ∧
      tree.entryAt? location = some .directory := by
  have hbegin := h.prefix_components
  rw [Location.components_path (hlawful.isFileName_of_entry hstart), List.prefix_cons_iff]
    at hbegin
  rcases hbegin with hnil | ⟨names, hcomponents, hnames⟩
  · have habsolute := h.isAbsolute_eq.trans (Location.isAbsolute_path start)
    exact absurd hnil (Path.components_ne_nil_of_isAbsolute habsolute)
  · obtain ⟨location, ⟨rest, rfl⟩, rfl⟩ := List.prefix_map_iff.1 hnames
    have hdirectory : tree.entryAt? location = some .directory := by
      by_cases hrest : rest = []
      · rwa [hrest, List.append_nil] at hstart
      · exact hlawful.directory_of_append hrest hstart
    have htop : tree.locate cwd [.root] = .ok [] := rfl
    refine ⟨location, ?_, hdirectory⟩
    rw [hcomponents]
    exact hlawful.locate_append_names htop hdirectory

/-- What a directory contains is what is there. -/
theorem contains_iff_of_locate (hlocate : tree.locate cwd path.components = .ok location)
    (hdirectory : tree.entryAt? location = some .directory) :
    tree.Contains cwd path name ↔ (tree.entryAt? (location ++ [name])).isSome = true := by
  simp [Contains, hlocate, hdirectory]

/-- What a path leads to depends on where it leads and on what is there. -/
theorem find_congr (h : tree.locate cwd path.components = .ok location)
    (h' : tree'.locate cwd path.components = .ok location)
    (hentry : tree'.entryAt? location = tree.entryAt? location) :
    tree'.find cwd path = tree.find cwd path := by
  unfold find
  simp only [h, h', hentry]

/-- The configuration file of a project lies in its root. -/
theorem locate_fileIn (hlocate : tree.locate cwd root.components = .ok location)
    (hdirectory : tree.entryAt? location = some .directory) :
    tree.locate cwd (Config.fileIn root).components = .ok (location ++ [configFileName]) := by
  have hname : IsFileName configFileName := by decide
  rw [Config.fileIn, Path.components_join _ hname]
  exact locate_concat_eq_ok.2 ⟨location, hlocate, step_of_directory hdirectory _⟩

/-- The configuration of a project depends on what is at the place of its file. -/
theorem loadOrDefault_congr (hlocate : tree.locate cwd root.components = .ok location)
    (hkept : ∀ place, tree.entryAt? place = some .directory →
      tree'.entryAt? place = some .directory)
    (hdirectory : tree.entryAt? location = some .directory)
    (hentry : tree'.entryAt? (location ++ [configFileName]) =
      tree.entryAt? (location ++ [configFileName])) :
    Config.loadOrDefault tree' cwd root = Config.loadOrDefault tree cwd root := by
  have hfind : tree'.find cwd (Config.fileIn root) = tree.find cwd (Config.fileIn root) :=
    find_congr (locate_fileIn hlocate hdirectory)
      (locate_fileIn (locate_of_directories hkept hlocate) (hkept _ hdirectory)) hentry
  unfold Config.loadOrDefault Config.load hasEntry readText
  rw [hfind]

end FileTree

namespace Command

variable {tree tree' : FileTree} {start : Location}

/-! ## The project of a working directory -/

/-- The root of the project that is found is the nearest one. -/
theorem Project.projectRoot?_of_find {project : Project}
    (h : Project.find tree start = .ok project) :
    projectRoot? tree start (Location.path start) = some project.root := by
  unfold find at h
  split at h
  · exact absurd h (by simp)
  · next root hroot =>
      split at h
      · exact absurd h (by simp)
      · rw [← Except.ok.inj h, hroot]

/-- The root of a project that is found is an absolute path. -/
theorem Project.isAbsolute_root {project : Project} (h : Project.find tree start = .ok project) :
    project.root.isAbsolute = true := by
  have hnearest := isNearestRoot_of_projectRoot? (projectRoot?_of_find h)
  exact hnearest.above.isAbsolute_eq.trans (Location.isAbsolute_path start)

/-- A project that begins in the working directory is found with its configuration. -/
theorem Project.find_of_root {config : Config}
    (hroot : isProjectRoot tree start (Location.path start) = true)
    (hconfig : Config.loadOrDefault tree start (Location.path start) = .ok config) :
    Project.find tree start = .ok ⟨Location.path start, config⟩ := by
  rw [find, projectRoot?_of_isProjectRoot hroot]
  simp only [hconfig]

/-- The names that decide which project is found. -/
def projectFiles : List String := [projectMark, configFileName]

/-- The same project is found where directories are kept, and what has one of the names that decide
it is the same. -/
theorem Project.find_congr (hlawful : tree.Lawful)
    (hstart : tree.entryAt? start = some .directory)
    (hdirectory : ∀ place, tree.entryAt? place = some .directory →
      tree'.entryAt? place = some .directory)
    (hfiles : ∀ name ∈ projectFiles, ∀ place,
      tree'.entryAt? (place ++ [name]) = tree.entryAt? (place ++ [name])) :
    Project.find tree' start = Project.find tree start := by
  have hmark : ∀ path : Path, path.IsAbove (Location.path start) →
      isProjectRoot tree' start path = isProjectRoot tree start path := by
    intro path habove
    obtain ⟨location, hlocate, hat⟩ := hlawful.locate_of_isAbove start hstart habove
    have hlocate' := locate_of_directories hdirectory hlocate
    rw [Bool.eq_iff_iff, isProjectRoot_iff, isProjectRoot_iff, contains_iff_of_locate hlocate hat,
      contains_iff_of_locate hlocate' (hdirectory _ hat),
      hfiles projectMark (by simp [projectFiles])]
  rw [find, find, projectRoot?_congr hmark]
  cases hroot : projectRoot? tree start (Location.path start) with
  | none => rfl
  | some root =>
      have habove := (isNearestRoot_of_projectRoot? hroot).above
      obtain ⟨location, hlocate, hat⟩ := hlawful.locate_of_isAbove start hstart habove
      simp only [loadOrDefault_congr hlocate hdirectory hat
        (hfiles configFileName (by simp [projectFiles]) location)]

/-! ## After a batch -/

/-- Whether no directory on the way to a matcher has one of the names that decide which project is
found. -/
def SparesProject (settings : BatchSettings) (types : List StructType) : Prop :=
  ∀ name ∈ projectFiles, .name name ∉ settings.outputDir.components ∧
    ∀ type ∈ types, name ∉ type.modulePath.segments

instance (settings : BatchSettings) (types : List StructType) :
    Decidable (SparesProject settings types) :=
  inferInstanceAs (Decidable (∀ name ∈ projectFiles, _))

/-- No matcher has one of the names that decide which project is found. -/
theorem notMem_matcherWay {name : String} (hname : name ∈ projectFiles) (type : StructType) :
    (matcherWay type).getLast? ≠ some name := by
  have hlast : name.toList.getLast? = some 'l' := by
    revert name
    decide
  rw [matcherWay, List.getLast?_concat]
  intro heq
  rw [← Option.some.inj heq, String.toList_append, show ".rs".toList = ['.', 'r'] ++ ['s'] from rfl,
    ← List.append_assoc, List.getLast?_concat] at hlast
  exact absurd hlast (by decide)

/-- After a batch the same project is found. -/
theorem Project.find_generatedAll (settings : BatchSettings) {w : Workspace}
    {types : List StructType} (hlawful : w.tree.Lawful)
    (hcwd : w.tree.entryAt? w.cwd = some .directory)
    (hnames : ∀ type ∈ types, ∀ name ∈ matcherWay type, IsFileName name)
    (hspares : SparesProject settings types) :
    Project.find (settings.generatedAll w types).1 w.cwd = Project.find w.tree w.cwd := by
  refine find_congr hlawful hcwd (settings.writesWithin_generatedAll w types).directory
    fun name hname place => ?_
  obtain ⟨houtput, hmodules⟩ := hspares name hname
  refine settings.entryAt?_generatedAll hlawful hcwd (fun type htype hmem => ?_) fun hmem => ?_
  · rw [settings.components_artifactDir (hnames type htype), List.mem_append] at hmem
    rcases hmem with hmem | hmem
    · exact houtput hmem
    · obtain ⟨segment, hsegment, heq⟩ := List.mem_map.1 hmem
      exact hmodules type htype (Component.name.inj heq ▸ hsegment)
  · obtain ⟨type, htype, hplace⟩ := List.mem_map.1 hmem
    have hlast := congrArg List.getLast? hplace
    rw [settings.artifactPlace_eq w.cwd (hnames type htype), List.getLast?_concat,
      List.getLast?_append_of_ne_nil _ (by simp [matcherWay])] at hlast
    exact notMem_matcherWay hname type hlast

end Command

end StructMatch
