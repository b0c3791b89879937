import StructMatch.Proofs.FileTree.Directory

/-!
# Replacing a file

A file is replaced by way of a temporary file, which leaves no trace: `replaceFile_cases` says that
all that remains beside the directories that were made is the text at the target, and that a failure
leaves no more than these directories.
-/

namespace StructMatch.FileTree

variable {tree tree' : FileTree} {cwd location target : Location} {path dir : Path}

/-! ## The temporary file -/

theorem le_foldl_max (names : List String) (n : Nat) :
    n ≤ names.foldl (fun n name => max n name.length) n ∧
      ∀ name ∈ names, name.length ≤ names.foldl (fun n name => max n name.length) n := by
  induction names generalizing n with
  | nil => simp
  | cons first names ih =>
      obtain ⟨hstart, hall⟩ := ih (max n first.length)
      rw [List.foldl_cons]
      refine ⟨by omega, fun name hname => ?_⟩
      rcases List.mem_cons.1 hname with rfl | hmem
      · omega
      · exact hall name hmem

theorem le_foldl_longest (entries : List (Location × Entry)) (n : Nat) :
    n ≤ entries.foldl freshName.longest n ∧
      ∀ e ∈ entries, ∀ name ∈ e.1, name.length ≤ entries.foldl freshName.longest n := by
  induction entries generalizing n with
  | nil => simp
  | cons first entries ih =>
      obtain ⟨hstart, hall⟩ := ih (freshName.longest n first)
      obtain ⟨hn, hfirst⟩ := le_foldl_max first.1 n
      rw [List.foldl_cons]
      refine ⟨Nat.le_trans hn hstart, fun e he name hname => ?_⟩
      rcases List.mem_cons.1 he with rfl | hmem
      · exact Nat.le_trans (hfirst name hname) hstart
      · exact hall e hmem name hname

/-- No entry has the fresh name on its way. -/
theorem freshName_notMem {e : Location × Entry} (he : e ∈ tree.entries) :
    tree.freshName ∉ e.1 := by
  intro hmem
  -- the fresh name is longer than any name of the tree
  have hle := (le_foldl_longest tree.entries 0).2 e he _ hmem
  have hlength : tree.freshName.length = 4 + tree.entries.foldl freshName.longest 0 := by
    rw [freshName, String.length_append, show ".tmp".length = 4 from rfl, String.length_ofList,
      List.length_replicate]
  omega

/-- Nothing is at or below a place with the fresh name. -/
theorem not_prefix_of_freshName (above : Location) {e : Location × Entry}
    (he : e ∈ tree.entries) : (above ++ [tree.freshName]).isPrefixOf e.1 = false := by
  rw [Bool.eq_false_iff]
  intro hprefix
  exact freshName_notMem he ((List.isPrefixOf_iff_prefix.1 hprefix).subset (by simp))

/-- Putting a file where nothing is and taking it away again changes nothing. -/
theorem remove_put (h : ∀ e ∈ tree.entries, location.isPrefixOf e.1 = false) (entry : Entry) :
    (tree.put location entry).remove location = tree := by
  have hself : location.isPrefixOf location = true :=
    List.isPrefixOf_iff_prefix.2 (List.prefix_refl location)
  have hne : ∀ e ∈ tree.entries, e.1 ≠ location := by
    rintro e he rfl
    rw [h e he] at hself
    exact absurd hself (by decide)
  have hput : tree.entries.filter (fun e => decide (e.1 ≠ location)) = tree.entries :=
    List.filter_eq_self.2 fun e he => by simpa using hne e he
  have hremove : tree.entries.filter (fun e => !location.isPrefixOf e.1) = tree.entries :=
    List.filter_eq_self.2 fun e he => by simpa using h e he
  rw [put, remove, hput, List.filter_cons_of_neg (by simp [hself]), hremove]

theorem put_put (tree : FileTree) (location : Location) (entry entry' : Entry) :
    (tree.put location entry).put location entry' = tree.put location entry' := by
  simp [put, List.filter_filter]

/-! ## The target of a rename -/

/-- A file can be moved to a path that ends in a name, lies in a directory and is no directory. -/
theorem renameTarget_eq_ok_iff : tree.renameTarget cwd path = .ok target ↔
    ∃ name above, path.components.getLast? = some (.name name) ∧
      tree.locate cwd path.components.dropLast = .ok above ∧
      tree.entryAt? above = some .directory ∧ path.text.toList.getLast? ≠ some '/' ∧
      path.endsInDirectory = false ∧ tree.entryAt? (above ++ [name]) ≠ some .directory ∧
      target = above ++ [name] := by
  unfold renameTarget
  split
  · next name hname =>
      cases hlocate : tree.locate cwd path.components.dropLast with
      | error e => simp
      | ok above =>
          cases habove : tree.entryAt? above with
          | none => simp [habove]
          | some entry =>
              cases entry with
              | file content => simp [habove]
              | directory =>
                  by_cases hslash : path.text.toList.getLast? = some '/'
                  · simp [habove, hslash]
                  · by_cases hends : path.endsInDirectory = true
                    · simp [habove, hslash, hends]
                    · cases hentry : tree.entryAt? (above ++ [name]) with
                      | none => simp [habove, hslash, hends, hentry, hname, eq_comm]
                      | some entry =>
                          cases entry <;> simp [habove, hslash, hends, hentry, hname, eq_comm]
  · next hnot =>
      simp only [reduceCtorEq, false_iff]
      rintro ⟨name, above, hname, -⟩
      exact hnot name hname

/-- Where a file can be moved to depends on the directories only. -/
theorem renameTarget_congr
    (h : ∀ place, tree.entryAt? place = some .directory ↔
      tree'.entryAt? place = some .directory) :
    tree.renameTarget cwd path = .ok target ↔ tree'.renameTarget cwd path = .ok target := by
  have hlocate : ∀ {components : List Component} {above : Location},
      tree.locate cwd components = .ok above ↔ tree'.locate cwd components = .ok above :=
    ⟨locate_of_directories fun place => (h place).1, locate_of_directories fun place => (h place).2⟩
  simp only [renameTarget_eq_ok_iff, hlocate, h, ne_eq]

/-! ## What replacing does -/

theorem directory_iff_put_file (hentry : tree.entryAt? location = none) (content : Content)
    (place : Location) : (tree.put location (.file content)).entryAt? place = some .directory ↔
      tree.entryAt? place = some .directory := by
  have hne : location ≠ [] := by
    rintro rfl
    exact absurd hentry (by simp [entryAt?_nil])
  by_cases heq : place = location
  · subst heq
    simp [entryAt?_put_self hne, hentry]
  · rw [entryAt?_put_of_ne heq]

theorem entryAt?_freshName (tree : FileTree) (above : Location) :
    tree.entryAt? (above ++ [tree.freshName]) = none := by
  rw [entryAt?_of_ne_nil (by simp)]
  cases hlookup : tree.entries.lookup (above ++ [tree.freshName]) with
  | none => rfl
  | some entry => exact absurd (freshName_notMem (mem_of_lookup hlookup)) (by simp)

/-- Taking the temporary file away leaves the tree as it was. -/
theorem remove_temporary (tree : FileTree) (above : Location) (entry : Entry) :
    (tree.put (above ++ [tree.freshName]) entry).remove (above ++ [tree.freshName]) = tree :=
  remove_put (fun _ he => not_prefix_of_freshName above he) entry

/-- The temporary file is in nobody's way. -/
theorem renameTarget_temporary (tree : FileTree) (above : Location) (content : Content) :
    (tree.put (above ++ [tree.freshName]) (.file content)).renameTarget cwd path = .ok target ↔
      tree.renameTarget cwd path = .ok target :=
  renameTarget_congr (directory_iff_put_file (entryAt?_freshName tree above) content)

/-- Replacing a file fails and leaves nothing but directories that it made, or puts the text where
the path leads to. -/
theorem replaceFile_cases (refusals : Refusals) (cwd : Location) (tree : FileTree) (dir path : Path)
    (text : String) :
    ∃ made, MakesDirectories cwd dir.components tree made ∧
      made = (makeDirectories refusals cwd tree dir.components.reverse).1 ∧
      ((∃ failure, tree.replaceFile refusals cwd dir path text = (made, .error failure)) ∨
      ∃ above target, made.locate cwd dir.components = .ok above ∧
        (dir.components ≠ [] → made.entryAt? above = some .directory) ∧
        made.renameTarget cwd path = .ok target ∧
        tree.replaceFile refusals cwd dir path text =
          (made.put target (.file (.text text)), .ok ())) := by
  obtain ⟨hmakes, hdirectory⟩ := makeDirectories_spec refusals cwd tree dir.components.reverse
  unfold replaceFile
  dsimp only
  cases hmake : makeDirectories refusals cwd tree dir.components.reverse with
  | mk made outcome =>
      rw [hmake] at hmakes hdirectory
      refine ⟨made, hmakes.mono fun c hc => List.mem_reverse.1 hc, rfl, ?_⟩
      cases outcome with
      | error e => exact Or.inl ⟨⟨dir, e⟩, rfl⟩
      | ok =>
          cases hlocate : made.locate cwd dir.components with
          | error e =>
              cases hrefusal : refusals .makeTemporary with
              | some e' => exact Or.inl ⟨⟨dir, e'⟩, rfl⟩
              | none => exact Or.inl ⟨⟨dir, e⟩, by simp only [hlocate]⟩
          | ok above =>
              -- whichever step fails from here on, the temporary file is taken away again
              have htarget (target : Location) :
                  (made.put (above ++ [made.freshName])
                    (.file (.text text))).renameTarget cwd path = .ok target ↔
                  made.renameTarget cwd path = .ok target :=
                renameTarget_temporary made above (.text text)
              simp only [hlocate, put_put, remove_temporary]
              cases refusals .makeTemporary with
              | some e => exact Or.inl ⟨⟨dir, e⟩, rfl⟩
              | none =>
              cases refusals .write with
              | some e => exact Or.inl ⟨⟨dir.join ⟨made.freshName⟩, e⟩, rfl⟩
              | none =>
              cases refusals .setPermissions with
              | some e => exact Or.inl ⟨⟨dir.join ⟨made.freshName⟩, e⟩, rfl⟩
              | none =>
              cases refusals .rename with
              | some e => exact Or.inl ⟨⟨path, e⟩, rfl⟩
              | none =>
              cases hrename : (made.put (above ++ [made.freshName])
                  (.file (.text text))).renameTarget cwd path with
              | error e => exact Or.inl ⟨⟨path, e⟩, by simp only [hrename]⟩
              | ok target =>
                  refine Or.inr ⟨above, target, rfl, fun hne => ?_,
                    (htarget target).1 hrename, by simp only [hrename]⟩
                  obtain ⟨location, hlocation, hentry⟩ := hdirectory rfl (by simpa using hne)
                  rw [List.reverse_reverse, hlocate] at hlocation
                  rw [Except.ok.inj hlocation, hentry]

/-- Replacing a file succeeds on a device that refuses nothing, once its directory can be made and
its path can be moved to. -/
theorem replaceFile_noRefusals {made : FileTree} {above : Location} (text : String)
    (hmake : makeDirectories noRefusals cwd tree dir.components.reverse = (made, .ok ()))
    (hlocate : made.locate cwd dir.components = .ok above)
    (htarget : made.renameTarget cwd path = .ok target) :
    tree.replaceFile noRefusals cwd dir path text =
      (made.put target (.file (.text text)), .ok ()) := by
  have hrename := (renameTarget_temporary made above (.text text)).2 htarget
  simp only [replaceFile, noRefusals, hmake, hlocate, put_put, remove_temporary, hrename]

/-- A file is replaced only where the device refuses no step but making a directory. -/
theorem refusals_of_replaceFile {refusals : Refusals} {text : String}
    (h : (tree.replaceFile refusals cwd dir path text).2 = .ok ()) {step : ReplacementStep}
    (hstep : ∀ depth, step ≠ .makeDirectory depth) : refusals step = none := by
  unfold replaceFile at h
  dsimp only at h
  split at h
  · exact absurd h (by simp)
  · split at h
    · exact absurd h (by simp)
    · exact absurd h (by simp)
    · next htemporary _ =>
        split at h
        · exact absurd h (by simp)
        · next hwrite =>
            split at h
            · exact absurd h (by simp)
            · next hpermissions =>
                split at h
                · exact absurd h (by simp)
                · exact absurd h (by simp)
                · next hrename _ =>
                    cases step with
                    | makeDirectory depth => exact absurd rfl (hstep depth)
                    | makeTemporary => exact htemporary
                    | write => exact hwrite
                    | setPermissions => exact hpermissions
                    | rename => exact hrename

/-- The text of a file plays no part in where another one can be moved to. -/
theorem renameTarget_put_file (tree : FileTree) (location cwd : Location) (path : Path)
    (content content' : Content) :
    (tree.put location (.file content)).renameTarget cwd path =
      (tree.put location (.file content')).renameTarget cwd path := by
  have hentry (place : Location) :
      (tree.put location (.file content)).entryAt? place =
          (tree.put location (.file content')).entryAt? place ∨
        (tree.put location (.file content)).entryAt? place = some (.file content) ∧
          (tree.put location (.file content')).entryAt? place = some (.file content') := by
    by_cases hnil : place = []
    · simp [hnil, entryAt?_nil]
    · by_cases hplace : place = location
      · subst hplace
        exact .inr ⟨entryAt?_put_self hnil, entryAt?_put_self hnil⟩
      · exact .inl (by rw [entryAt?_put_of_ne hplace, entryAt?_put_of_ne hplace])
  have hstep : (tree.put location (.file content)).step =
      (tree.put location (.file content')).step := by
    funext place component
    cases component <;> simp only [step, step.onDirectory]
    all_goals rcases hentry place with hsame | ⟨hfile, hfile'⟩ <;> simp [*]
  simp only [renameTarget, locate, hstep]
  split
  · next name _ =>
      split
      · rfl
      · next above _ =>
          rcases hentry above with hsame | ⟨hfile, hfile'⟩
          · rw [hsame]
            rcases hentry (above ++ [name]) with hsame | ⟨hfile, hfile'⟩ <;> simp [*]
          · rw [hfile, hfile']
  · rfl

/-- Whether a file can be replaced, and why not, does not depend on its text. -/
theorem replaceFile_snd_congr {refusals : Refusals} {text : String}
    {result : Except PathFailure Unit}
    (h : (tree.replaceFile refusals cwd dir path text).2 = result) (text' : String) :
    (tree.replaceFile refusals cwd dir path text').2 = result := by
  rw [← h]
  unfold replaceFile
  dsimp only
  cases hmake : makeDirectories refusals cwd tree dir.components.reverse with
  | mk made outcome =>
      cases outcome with
      | error e => rfl
      | ok =>
          cases hlocate : made.locate cwd dir.components with
          | error e => cases refusals .makeTemporary <;> simp [hlocate]
          | ok above =>
              simp only [hlocate, put_put, remove_temporary]
              cases refusals .makeTemporary with
              | some e => rfl
              | none =>
              cases refusals .write with
              | some e => rfl
              | none =>
              cases refusals .setPermissions with
              | some e => rfl
              | none =>
              cases refusals .rename with
              | some e => rfl
              | none =>
              dsimp only
              rw [renameTarget_put_file made _ cwd path (.text text') (.text text)]
              cases (made.put (above ++ [made.freshName])
                  (.file (.text text))).renameTarget cwd path <;> rfl

/-- A failure leaves the same tree whatever the text is. -/
theorem replaceFile_fst_congr {refusals : Refusals} {text : String} {failure : PathFailure}
    (h : (tree.replaceFile refusals cwd dir path text).2 = .error failure) (text' : String) :
    (tree.replaceFile refusals cwd dir path text').1 =
      (tree.replaceFile refusals cwd dir path text).1 := by
  have hleft {text : String}
      (h : (tree.replaceFile refusals cwd dir path text).2 = .error failure) :
      (tree.replaceFile refusals cwd dir path text).1 =
        (makeDirectories refusals cwd tree dir.components.reverse).1 := by
    obtain ⟨made, -, hmade, ⟨other, hfail⟩ | ⟨above, target, -, -, -, hok⟩⟩ :=
      replaceFile_cases refusals cwd tree dir path text
    · rw [hfail, hmade]
    · rw [hok] at h
      exact absurd h (by simp)
  rw [hleft h, hleft (replaceFile_snd_congr h text')]

/-! ## The place of the text -/

/-- A path that ends in a name leads to that name in the directory before it. -/
theorem location_eq_concat {name : String} {above : Location}
    (hname : path.components.getLast? = some (.name name))
    (habove : tree.locate cwd path.components.dropLast = .ok above) :
    path.location cwd = above ++ [name] := by
  obtain ⟨front, hfront⟩ := List.getLast?_eq_some_iff.1 hname
  rw [hfront, List.dropLast_concat] at habove
  rw [Path.location, hfront, Location.along_append, ← locate_eq_along habove]
  rfl

/-- A file is moved to the location of its path. -/
theorem eq_location_of_renameTarget (h : tree.renameTarget cwd path = .ok target) :
    target = path.location cwd := by
  obtain ⟨name, above, hname, habove, -, -, -, -, rfl⟩ := renameTarget_eq_ok_iff.1 h
  exact (location_eq_concat hname habove).symm

theorem location_ne_nil_of_renameTarget (h : tree.renameTarget cwd path = .ok target) :
    target ≠ [] := by
  obtain ⟨name, above, -, -, -, -, -, -, rfl⟩ := renameTarget_eq_ok_iff.1 h
  simp

/-- A file that is moved to its path keeps the tree lawful. -/
theorem Lawful.put_renameTarget (hlawful : tree.Lawful)
    (h : tree.renameTarget cwd path = .ok target) (content : Content) :
    (tree.put target (.file content)).Lawful := by
  obtain ⟨name, above, hname, habove, hdirectory, -, -, hentry, rfl⟩ := renameTarget_eq_ok_iff.1 h
  refine hlawful.put (by simp) ?_ (by simpa using hdirectory) fun h => absurd h hentry
  intro other hmem
  rcases List.mem_append.1 hmem with hmem | hmem
  · exact hlawful.isFileName_of_entry hdirectory other hmem
  · rw [List.mem_singleton.1 hmem]
    exact Path.isFileName_of_mem_components (List.mem_of_getLast? hname)

/-- Replacing a file keeps the tree lawful, whether it succeeds or not. -/
theorem Lawful.replaceFile (hlawful : tree.Lawful) (hcwd : tree.entryAt? cwd = some .directory)
    (refusals : Refusals) (dir path : Path) (text : String) :
    (tree.replaceFile refusals cwd dir path text).1.Lawful := by
  have hnames : ∀ name, Component.name name ∈ dir.components → IsFileName name :=
    fun _ => Path.isFileName_of_mem_components
  rcases replaceFile_cases refusals cwd tree dir path text with
    ⟨made, hmade, -, ⟨failure, hfail⟩ | ⟨above, target, -, -, htarget, hok⟩⟩
  · rw [hfail]
    exact hmade.lawful hlawful hcwd hnames
  · rw [hok]
    exact (hmade.lawful hlawful hcwd hnames).put_renameTarget htarget _

/-- Replacing a file leaves what has a name that is not on the way, whether it succeeds or not. -/
theorem Lawful.entryAt?_replaceFile (hlawful : tree.Lawful)
    (hcwd : tree.entryAt? cwd = some .directory) {name : String}
    (hname : .name name ∉ dir.components) {place : Location}
    (hplace : place ++ [name] ≠ path.location cwd) (refusals : Refusals) (text : String) :
    (tree.replaceFile refusals cwd dir path text).1.entryAt? (place ++ [name]) =
      tree.entryAt? (place ++ [name]) := by
  have hnames : ∀ name, Component.name name ∈ dir.components → IsFileName name :=
    fun _ => Path.isFileName_of_mem_components
  rcases replaceFile_cases refusals cwd tree dir path text with
    ⟨made, hmade, -, ⟨failure, hfail⟩ | ⟨above, target, -, -, htarget, hok⟩⟩
  · rw [hfail]
    exact hmade.entryAt?_of_notMem hlawful hcwd hnames hname place
  · rw [hok, entryAt?_put_of_ne (eq_location_of_renameTarget htarget ▸ hplace)]
    exact hmade.entryAt?_of_notMem hlawful hcwd hnames hname place

/-! ## Trees that differ by what was written -/

/-- Whether the second tree differs from the first one only by what was written to some locations
and by directories that were made where nothing was. -/
structure WritesWithin (written : List Location) (tree tree' : FileTree) : Prop where
  elsewhere : ∀ place, place ∉ written → tree'.entryAt? place = tree.entryAt? place ∨
    (tree.entryAt? place = none ∧ tree'.entryAt? place = some .directory)
  directory : ∀ place, tree.entryAt? place = some .directory →
    tree'.entryAt? place = some .directory

theorem AddsDirectories.writesWithin (h : AddsDirectories tree tree') (written : List Location) :
    WritesWithin written tree tree' :=
  ⟨fun place _ => h place, fun _ => h.entryAt?_of_some⟩

namespace WritesWithin

variable {written : List Location} {tree'' : FileTree}

theorem refl (written : List Location) (tree : FileTree) : WritesWithin written tree tree :=
  (AddsDirectories.refl tree).writesWithin written

theorem mono {more : List Location} (hsub : written ⊆ more)
    (h : WritesWithin written tree tree') : WritesWithin more tree tree' :=
  ⟨fun place hplace => h.elsewhere place fun hmem => hplace (hsub hmem), h.directory⟩

theorem trans (h : WritesWithin written tree tree') (h' : WritesWithin written tree' tree'') :
    WritesWithin written tree tree'' := by
  refine ⟨fun place hplace => ?_, fun place hplace => h'.directory _ (h.directory _ hplace)⟩
  rcases h.elsewhere place hplace with hfirst | ⟨hnone, hfirst⟩
  · rcases h'.elsewhere place hplace with hsecond | ⟨hbetween, hsecond⟩
    · exact Or.inl (hsecond.trans hfirst)
    · exact Or.inr ⟨hfirst ▸ hbetween, hsecond⟩
  · exact Or.inr ⟨hnone, h'.directory _ hfirst⟩

/-- Files that were not written are those that were there before. -/
theorem entryAt?_file_iff (h : WritesWithin written tree tree') {place : Location}
    (hplace : place ∉ written) {content : Content} :
    tree'.entryAt? place = some (.file content) ↔ tree.entryAt? place = some (.file content) := by
  rcases h.elsewhere place hplace with heq | ⟨hnone, hdirectory⟩
  · rw [heq]
  · simp [hnone, hdirectory]

theorem locate (h : WritesWithin written tree tree') {components : List Component}
    (hlocate : tree.locate cwd components = .ok location) :
    tree'.locate cwd components = .ok location :=
  locate_of_directories h.directory hlocate

/-- What can be read from a path that led to a text before is the text that is there now. -/
theorem readText_of_entry (h : WritesWithin written tree tree') {text text' : String}
    (hread : tree.readText cwd path = .ok text)
    (hentry : tree'.entryAt? (path.location cwd) = some (.file (.text text'))) :
    tree'.readText cwd path = .ok text' := by
  obtain ⟨htext, hends, location, hlocate, -⟩ := readText_eq_ok_iff.1 hread
  obtain rfl : location = path.location cwd := locate_eq_along hlocate
  exact readText_eq_ok_iff.2 ⟨htext, hends, _, h.locate hlocate, hentry⟩

/-- A file that was not written can be read as before. -/
theorem readText (h : WritesWithin written tree tree') (hplace : path.location cwd ∉ written)
    {text : String} (hread : tree.readText cwd path = .ok text) :
    tree'.readText cwd path = .ok text :=
  h.readText_of_entry hread ((h.entryAt?_file_iff hplace).2 (entryAt?_of_readText hread))

theorem isDirectory (h : WritesWithin written tree tree')
    (hpath : tree.isDirectory cwd path = true) : tree'.isDirectory cwd path = true := by
  obtain ⟨htext, location, hlocate, hentry⟩ := isDirectory_iff.1 hpath
  exact isDirectory_iff.2 ⟨htext, location, h.locate hlocate, h.directory _ hentry⟩

end WritesWithin

/-- Putting a file where a file can be moved to changes nothing else. -/
theorem writesWithin_put (h : tree.renameTarget cwd path = .ok target) (content : Content) :
    WritesWithin [path.location cwd] tree (tree.put target (.file content)) := by
  rw [← eq_location_of_renameTarget h]
  obtain ⟨name, above, -, -, -, -, -, hentry, rfl⟩ := renameTarget_eq_ok_iff.1 h
  refine ⟨fun place hplace => Or.inl (entryAt?_put_of_ne (by simpa using hplace)), ?_⟩
  -- the target was no directory, so none is lost
  intro place hplace
  rw [entryAt?_put_of_ne, hplace]
  rintro rfl
  exact hentry hplace

/-- Replacing a file writes to the location of its path only, whether it succeeds or not. -/
theorem writesWithin_replaceFile (refusals : Refusals) (cwd : Location) (tree : FileTree)
    (dir path : Path) (text : String) :
    WritesWithin [path.location cwd] tree (tree.replaceFile refusals cwd dir path text).1 := by
  rcases replaceFile_cases refusals cwd tree dir path text with
    ⟨made, hmade, -, ⟨failure, hfail⟩ | ⟨above, target, -, -, htarget, hok⟩⟩
  · rw [hfail]
    exact hmade.addsDirectories.writesWithin _
  · rw [hok]
    exact (hmade.addsDirectories.writesWithin _).trans (writesWithin_put htarget _)

/-- Replacing a file that fails makes directories at most. -/
theorem addsDirectories_of_replaceFile_error {refusals : Refusals} {text : String}
    {failure : PathFailure}
    (h : tree.replaceFile refusals cwd dir path text = (tree', .error failure)) :
    AddsDirectories tree tree' := by
  rcases replaceFile_cases refusals cwd tree dir path text with
    ⟨made, hmade, -, ⟨other, hfail⟩ | ⟨above, target, -, -, -, hok⟩⟩
  · rw [hfail, Prod.mk.injEq] at h
    exact h.1 ▸ hmade.addsDirectories
  · rw [hok, Prod.mk.injEq] at h
    exact absurd h.2 (by simp)

/-- Replacing a file that fails leaves the target as it was, unless the way to its directory passes
it. -/
theorem entryAt?_of_replaceFile_error {refusals : Refusals} {text : String} {failure : PathFailure}
    (hdir : dir.components = path.components.dropLast) (hpasses : ¬ path.PassesItself cwd)
    (h : tree.replaceFile refusals cwd dir path text = (tree', .error failure)) :
    tree'.entryAt? (path.location cwd) = tree.entryAt? (path.location cwd) := by
  rcases replaceFile_cases refusals cwd tree dir path text with
    ⟨made, -, hmade, ⟨other, hfail⟩ | ⟨above, target, -, -, -, hok⟩⟩
  · rw [hfail, Prod.mk.injEq] at h
    rw [← h.1, hmade]
    refine entryAt?_makeDirectories fun above hne habove hplace => hpasses ?_
    rw [List.reverse_reverse, hdir] at habove
    exact ⟨above, (List.mem_inits _ _).2 habove, hne, hplace.symm⟩
  · rw [hok, Prod.mk.injEq] at h
    exact absurd h.2 (by simp)

/-! ## Writing again what is there -/

/-- Whether a file holds a text, in a directory that is there. -/
structure Holds (tree : FileTree) (cwd : Location) (dir path : Path) (text : String) : Prop where
  directory : ∃ above, tree.locate cwd dir.components = .ok above ∧
    (dir.components ≠ [] → tree.entryAt? above = some .directory)
  target : ∃ target, tree.renameTarget cwd path = .ok target
  entry : tree.entryAt? (path.location cwd) = some (.file (.text text))

/-- A file that was replaced holds the text. -/
theorem holds_of_replaceFile {refusals : Refusals} {text : String}
    (h : tree.replaceFile refusals cwd dir path text = (tree', .ok ())) :
    tree'.Holds cwd dir path text := by
  rcases replaceFile_cases refusals cwd tree dir path text with
    ⟨made, hmade, -, ⟨failure, hfail⟩ | ⟨above, target, hlocate, habove, htarget, hok⟩⟩
  · rw [hfail, Prod.mk.injEq] at h
    exact absurd h.2 (by simp)
  · rw [hok, Prod.mk.injEq] at h
    obtain ⟨rfl, -⟩ := h
    have hwrites := writesWithin_put htarget (.text text)
    refine ⟨⟨above, hwrites.locate hlocate, fun hne => hwrites.directory _ (habove hne)⟩,
      ⟨target, ?_⟩, ?_⟩
    · have hkept := renameTarget_eq_ok_iff.1 htarget
      obtain ⟨name, place, hname, hplace, hdirectory, hslash, hends, hentry, rfl⟩ := hkept
      refine renameTarget_eq_ok_iff.2 ⟨name, place, hname, hwrites.locate hplace,
        hwrites.directory _ hdirectory, hslash, hends, ?_, rfl⟩
      rw [entryAt?_put_self (by simp)]
      simp
    · rw [← eq_location_of_renameTarget htarget,
        entryAt?_put_self (location_ne_nil_of_renameTarget htarget)]

/-- The text that a file holds can be read. -/
theorem Holds.readText {text : String} (h : tree.Holds cwd dir path text) :
    tree.readText cwd path = .ok text := by
  obtain ⟨target, htarget⟩ := h.target
  have heq := eq_location_of_renameTarget htarget
  obtain ⟨name, above, hname, habove, hdirectory, -, hends, -, rfl⟩ :=
    renameTarget_eq_ok_iff.1 htarget
  obtain ⟨front, hfront⟩ := List.getLast?_eq_some_iff.1 hname
  refine readText_eq_ok_iff.2 ⟨?_, hends, above ++ [name], ?_, by rw [heq, h.entry]⟩
  · intro htext
    rw [Path.components_eq, Path.pieces_of_text_empty htext] at hname
    exact absurd hname (by simp [Path.componentsOf, Path.firstComponent?])
  · rw [hfront, List.dropLast_concat] at habove
    rw [hfront]
    exact locate_concat_eq_ok.2 ⟨above, habove, step_of_directory hdirectory _⟩

/-- A file goes on holding its text while others are written. -/
theorem Holds.of_writesWithin {text : String} {written : List Location}
    (h : tree.Holds cwd dir path text) (hwrites : WritesWithin written tree tree')
    (hplace : path.location cwd ∉ written) : tree'.Holds cwd dir path text := by
  obtain ⟨above, hlocate, habove⟩ := h.directory
  obtain ⟨target, htarget⟩ := h.target
  have hentry := (hwrites.entryAt?_file_iff hplace).2 h.entry
  refine ⟨⟨above, hwrites.locate hlocate, fun hne => hwrites.directory _ (habove hne)⟩,
    ⟨target, ?_⟩, hentry⟩
  have heq := eq_location_of_renameTarget htarget
  obtain ⟨name, place, hname, hat, hdirectory, hslash, hends, -, rfl⟩ :=
    renameTarget_eq_ok_iff.1 htarget
  refine renameTarget_eq_ok_iff.2 ⟨name, place, hname, hwrites.locate hat,
    hwrites.directory _ hdirectory, hslash, hends, ?_, rfl⟩
  rw [heq, hentry]
  simp

/-- No directory is missing on the way to a file that is there. -/
theorem Holds.makeDirectories {text : String} (h : tree.Holds cwd dir path text)
    (refusals : Refusals) :
    FileTree.makeDirectories refusals cwd tree dir.components.reverse = (tree, .ok ()) := by
  obtain ⟨above, hlocate, habove⟩ := h.directory
  by_cases hnil : dir.components = []
  · rw [hnil]
    rfl
  · exact makeDirectories_of_directory (by rwa [List.reverse_reverse]) (habove hnil)

/-- Beside a file that is there another one can be written, unless a directory is in its place. -/
theorem Holds.replaceFile_beside {text : String} (h : tree.Holds cwd dir path text)
    {dir' other : Path} {name : String} (hdir : dir'.components = dir.components)
    (habove : other.components.dropLast = path.components.dropLast)
    (hname : other.components.getLast? = some (.name name))
    (hslash : other.text.toList.getLast? ≠ some '/') (hends : other.endsInDirectory = false)
    (hentry : tree.entryAt? (other.location cwd) ≠ some .directory) (text' : String) :
    (tree.replaceFile noRefusals cwd dir' other text').2 = .ok () := by
  obtain ⟨location, hlocate, -⟩ := h.directory
  obtain ⟨target, htarget⟩ := h.target
  obtain ⟨-, place, -, hplace, hdirectory, -⟩ := renameTarget_eq_ok_iff.1 htarget
  have hmake := h.makeDirectories noRefusals
  rw [← hdir] at hmake hlocate
  rw [← habove] at hplace
  rw [location_eq_concat hname hplace] at hentry
  rw [replaceFile_noRefusals text' hmake hlocate (renameTarget_eq_ok_iff.2
    ⟨name, place, hname, hplace, hdirectory, hslash, hends, hentry, rfl⟩)]

/-- Writing again what a file holds changes nothing, and fails only if the device refuses. -/
theorem Holds.replaceFile {text : String} (h : tree.Holds cwd dir path text) (refusals : Refusals) :
    (∀ place,
      (tree.replaceFile refusals cwd dir path text).1.entryAt? place = tree.entryAt? place) ∧
      (tree.replaceFile noRefusals cwd dir path text).2 = .ok () := by
  obtain ⟨above, hlocate, -⟩ := h.directory
  obtain ⟨target, htarget⟩ := h.target
  refine ⟨fun place => ?_, by
    rw [replaceFile_noRefusals text (h.makeDirectories noRefusals) hlocate htarget]⟩
  -- no directory was missing, so the text is put into the tree as it was
  obtain ⟨made, -, hmade, hcases⟩ := replaceFile_cases refusals cwd tree dir path text
  rw [h.makeDirectories] at hmade
  subst hmade
  rcases hcases with ⟨failure, hfail⟩ | ⟨_, other, -, -, hother, hok⟩
  · rw [hfail]
  · rw [hok]
    by_cases hplace : place = other
    · subst hplace
      rw [entryAt?_put_self (location_ne_nil_of_renameTarget hother),
        eq_location_of_renameTarget hother, h.entry]
    · rw [entryAt?_put_of_ne hplace]

end StructMatch.FileTree
