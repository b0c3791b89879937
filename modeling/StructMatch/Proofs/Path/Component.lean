import StructMatch.Path
import StructMatch.Proofs.Text.FileName

/-!
# Components of joined paths

The components of a path can be read off its pieces.  Going on from a path by a name adds one
component, `components_join`, however the path is written.
-/

namespace StructMatch.Path

/-! ## Pieces -/

theorem piecesGo_eq (piece cs : List Char) :
    pieces.go piece cs = match pieces.go [] cs with
      | [] => []
      | first :: rest => (piece.reverse ++ first) :: rest := by
  induction cs generalizing piece with
  | nil => simp [pieces.go]
  | cons c cs ih =>
      by_cases hc : c = '/'
      · simp [pieces.go, hc]
      · simp only [pieces.go, if_neg hc]
        rw [ih (c :: piece), ih [c]]
        cases pieces.go [] cs with
        | nil => rfl
        | cons first rest => simp

theorem piecesGo_ne_nil (piece cs : List Char) : pieces.go piece cs ≠ [] := by
  induction cs generalizing piece with
  | nil => simp [pieces.go]
  | cons c cs ih =>
      by_cases hc : c = '/'
      · simp [pieces.go, hc]
      · simpa [pieces.go, hc] using ih (c :: piece)

/-- A text without separators is one piece. -/
theorem piecesGo_of_notMem {cs : List Char} (h : '/' ∉ cs) (piece : List Char) :
    pieces.go piece cs = [piece.reverse ++ cs] := by
  induction cs generalizing piece with
  | nil => simp [pieces.go]
  | cons c cs ih =>
      rw [List.mem_cons, not_or] at h
      simp [pieces.go, Ne.symm h.1, ih h.2]

/-- The pieces before a separator and those after it. -/
theorem piecesGo_append (piece as bs : List Char) :
    pieces.go piece (as ++ '/' :: bs) = pieces.go piece as ++ pieces.go [] bs := by
  induction as generalizing piece with
  | nil => simp [pieces.go]
  | cons a as ih =>
      by_cases ha : a = '/'
      · simp [pieces.go, ha, ih]
      · simp [pieces.go, ha, ih]

/-- No piece holds a separator. -/
theorem separator_notMem_piecesGo {piece cs : List Char} (h : '/' ∉ piece) :
    ∀ p ∈ pieces.go piece cs, '/' ∉ p := by
  induction cs generalizing piece with
  | nil => simpa [pieces.go] using h
  | cons c cs ih =>
      intro p hp
      by_cases hc : c = '/'
      · rw [pieces.go, if_pos hc, List.mem_cons] at hp
        rcases hp with rfl | hp
        · simpa using h
        · exact ih (by simp) p hp
      · rw [pieces.go, if_neg hc] at hp
        refine ih ?_ p hp
        rw [List.mem_cons, not_or]
        exact ⟨Ne.symm hc, h⟩

theorem pieces_ne_nil (path : Path) : path.pieces ≠ [] := piecesGo_ne_nil [] _

theorem separator_notMem_pieces (path : Path) : ∀ p ∈ path.pieces, '/' ∉ p :=
  separator_notMem_piecesGo (by simp)

/-- A path that begins with a separator has an empty first piece and more pieces after it. -/
theorem isAbsolute_iff (path : Path) :
    path.isAbsolute = true ↔ ∃ rest, rest ≠ [] ∧ path.pieces = [] :: rest := by
  unfold isAbsolute pieces
  cases path.text.toList with
  | nil => simp [pieces.go]
  | cons c cs =>
      by_cases hc : c = '/'
      · simp [pieces.go, hc, piecesGo_ne_nil]
      · simp only [List.head?_cons, Option.some.injEq, decide_eq_true_eq, hc, false_iff, pieces.go,
          ↓reduceIte]
        rintro ⟨rest, -, hrest⟩
        rw [piecesGo_eq] at hrest
        split at hrest
        · exact absurd hrest (by simp)
        · simp at hrest

/-! ## Components -/

/-- The component that the first of some pieces stands for. -/
def firstComponent? (piece : List Char) (rest : List (List Char)) : Option Component :=
  if piece = [] then if rest = [] then none else some .root
  else if piece = ['.'] then some .here
  else component? piece

/-- The components that pieces stand for. -/
def componentsOf : List (List Char) → List Component
  | [] => []
  | piece :: rest => (firstComponent? piece rest).toList ++ rest.filterMap component?

/-- The components of a path are those of its pieces. -/
theorem components_eq (path : Path) : path.components = componentsOf path.pieces := by
  have habs := isAbsolute_iff path
  unfold components steps
  cases hpieces : path.pieces with
  | nil => rfl
  | cons piece rest =>
      rw [hpieces] at habs
      have hfirst : (if (piece = [] && path.isAbsolute) = true then some Component.root
          else if piece = ['.'] then some .here else component? piece) =
          firstComponent? piece rest := by
        unfold firstComponent?
        by_cases hp : piece = []
        · subst hp
          -- an empty piece is the root only if there is a separator after it
          by_cases hrest : rest = []
          · have hnot : path.isAbsolute = false := by
              rw [Bool.eq_false_iff]
              intro h
              obtain ⟨more, hmore, heq⟩ := habs.1 h
              exact hmore (by simpa [hrest] using heq.symm)
            simp [hrest, hnot, component?]
          · have hyes : path.isAbsolute = true := habs.2 ⟨rest, hrest, rfl⟩
            simp [hrest, hyes]
        · simp [hp]
      have hrest : (rest.map fun p => (p, component? p)).filterMap (·.2) =
          rest.filterMap component? := by
        rw [List.filterMap_map]
        rfl
      simp only [hfirst, componentsOf, List.filterMap_cons, hrest]
      cases firstComponent? piece rest <;> simp

/-- The root is at the beginning of a path, if at all. -/
theorem root_notMem_tail (path : Path) : .root ∉ path.components.tail := by
  have hpiece (rest : List (List Char)) : Component.root ∉ rest.filterMap component? := by
    rw [List.mem_filterMap]
    rintro ⟨piece, -, hpiece⟩
    unfold component? at hpiece
    split at hpiece <;> simp at hpiece
  rw [components_eq]
  cases path.pieces with
  | nil => simp [componentsOf]
  | cons piece rest =>
      rw [componentsOf]
      cases firstComponent? piece rest with
      | none => exact fun hmem => hpiece rest (List.mem_of_mem_tail hmem)
      | some first => exact hpiece rest

/-- A proper name stands for a component of its own. -/
theorem component?_of_isFileName {name : String} (h : IsFileName name) :
    component? name.toList = some (.name name) := by
  unfold component?
  split
  · next heq => exact absurd heq h.ne_empty
  · next heq => exact absurd heq h.ne_here
  · next heq => exact absurd heq h.ne_up
  · rw [String.ofList_toList]

/-- Every component that is a name is a proper one. -/
theorem isFileName_of_component? {piece : List Char} {name : String} (hsep : '/' ∉ piece)
    (h : component? piece = some (.name name)) : IsFileName name := by
  unfold component? at h
  split at h
  · exact absurd h (by simp)
  · exact absurd h (by simp)
  · exact absurd h (by simp)
  · next hnil hhere hup =>
      obtain rfl := Component.name.inj (Option.some.inj h)
      constructor <;> rw [String.toList_ofList]
      · exact hnil
      · exact hsep
      · exact hhere
      · exact hup

/-! ## Going on by a name -/

/-- A last piece adds what it stands for to a path that goes on after the pieces before it. -/
theorem componentsOf_concat {pieces : List (List Char)} (h : pieces ≠ []) (piece : List Char) :
    componentsOf (pieces ++ [piece]) =
      componentsOf (pieces ++ [[]]) ++ (component? piece).toList := by
  cases pieces with
  | nil => exact absurd rfl h
  | cons first rest =>
      have hfirst : firstComponent? first (rest ++ [piece]) =
          firstComponent? first (rest ++ [[]]) := by
        simp [firstComponent?]
      simp only [List.cons_append, componentsOf, hfirst, List.filterMap_append, List.append_assoc]
      have hnil : component? [] = none := rfl
      cases hc : component? piece <;> simp [hc, hnil]

/-- An empty last piece adds nothing, unless it makes a separator of the only piece before it. -/
theorem componentsOf_concat_nil {pieces : List (List Char)} (h : pieces ≠ [])
    (hempty : pieces ≠ [[]]) : componentsOf (pieces ++ [[]]) = componentsOf pieces := by
  cases pieces with
  | nil => exact absurd rfl h
  | cons first rest =>
      have hfirst : firstComponent? first (rest ++ [[]]) = firstComponent? first rest := by
        unfold firstComponent?
        by_cases hf : first = []
        · have hrest : rest ≠ [] := by
            rintro rfl
            exact hempty (by rw [hf])
          simp [hf, hrest]
        · simp [hf]
      simp [componentsOf, hfirst, component?]

/-- Last pieces that stand for nothing add nothing. -/
theorem componentsOf_append_none {pieces more : List (List Char)} (h : pieces ≠ [])
    (hmore : ∀ p ∈ more, component? p = none) :
    componentsOf (pieces ++ more ++ [[]]) = componentsOf (pieces ++ [[]]) := by
  cases pieces with
  | nil => exact absurd rfl h
  | cons first rest =>
      have hfirst : firstComponent? first (rest ++ more ++ [[]]) =
          firstComponent? first (rest ++ [[]]) := by
        simp [firstComponent?]
      have hnone : more.filterMap component? = [] := List.filterMap_eq_nil_iff.2 hmore
      simp only [List.cons_append, componentsOf, hfirst, List.filterMap_append, hnone,
        List.append_nil]

/-- The only text of one empty piece is the empty one. -/
theorem text_eq_of_pieces {path : Path} (h : path.pieces = [[]]) : path.text = "" := by
  unfold pieces at h
  rw [← String.toList_inj]
  cases htext : path.text.toList with
  | nil => rfl
  | cons c cs =>
      rw [htext] at h
      by_cases hc : c = '/'
      · rw [pieces.go, if_pos hc, List.cons.injEq] at h
        exact absurd h.2 (piecesGo_ne_nil [] cs)
      · rw [pieces.go, if_neg hc, piecesGo_eq] at h
        split at h
        · exact absurd h (by simp)
        · simp at h

theorem pieces_of_text_empty {path : Path} (h : path.text = "") : path.pieces = [[]] := by
  simp [pieces, h, pieces.go]

theorem components_of_text_empty {path : Path} (h : path.text = "") : path.components = [] := by
  rw [components_eq, pieces_of_text_empty h]
  rfl

/-- How the pieces of a path go on by a name.  The pieces before the name lead as far as the path
does. -/
theorem pieces_join (path : Path) {name : String} (h : IsFileName name) :
    (path.text = "" ∧ (path.join ⟨name⟩).pieces = [name.toList]) ∨
      ∃ before, before ≠ [] ∧ (path.join ⟨name⟩).pieces = before ++ [name.toList] ∧
        componentsOf (before ++ [[]]) = path.components ∧ ∀ p ∈ before, '/' ∉ p := by
  have hname : pieces.go [] name.toList = [name.toList] := by
    simpa using piecesGo_of_notMem h.no_separator []
  have hrelative : (⟨name⟩ : Path).isAbsolute = false := by
    rw [isAbsolute, decide_eq_false_iff_not]
    intro hhead
    exact h.no_separator (List.mem_of_head? hhead)
  have hpieces := separator_notMem_pieces path
  by_cases htext : path.text = ""
  · refine Or.inl ⟨htext, ?_⟩
    simp [join, htext, pieces, hname]
  · right
    have hempty : path.pieces ≠ [[]] := fun heq => htext (text_eq_of_pieces heq)
    have hnotEmpty : path.text.isEmpty = false := by simpa using htext
    -- the name goes on after the separator that the path ends in, or after one of its own
    by_cases hlast : path.text.toList.getLast? = some '/'
    · obtain ⟨front, hfront⟩ := List.getLast?_eq_some_iff.1 hlast
      have hbase : path.pieces = pieces.go [] front ++ [[]] := by
        rw [pieces, hfront, piecesGo_append, pieces.go]
        rfl
      have hjoin : path.join ⟨name⟩ = ⟨path.text ++ name⟩ := by
        simp [join, hrelative, hnotEmpty, hlast]
      refine ⟨pieces.go [] front, piecesGo_ne_nil [] front, ?_, ?_, fun p hp => ?_⟩
      · rw [hjoin, pieces, String.toList_append, hfront, List.append_assoc,
          List.singleton_append, piecesGo_append, hname]
      · rw [components_eq, hbase]
      · exact hpieces p (by rw [hbase]; exact List.mem_append_left _ hp)
    · have hjoin : path.join ⟨name⟩ = ⟨path.text ++ "/" ++ name⟩ := by
        simp [join, hrelative, hnotEmpty, hlast]
      refine ⟨path.pieces, pieces_ne_nil path, ?_, ?_, hpieces⟩
      · rw [hjoin, pieces, String.toList_append, String.toList_append,
          show "/".toList = ['/'] from rfl, List.append_assoc, List.singleton_append,
          piecesGo_append, hname, ← pieces]
      · rw [componentsOf_concat_nil (pieces_ne_nil path) hempty, components_eq]

/-- Going on by a name adds one component. -/
theorem components_join (path : Path) {name : String} (h : IsFileName name) :
    (path.join ⟨name⟩).components = path.components ++ [.name name] := by
  rcases pieces_join path h with ⟨htext, hpieces⟩ | ⟨before, hne, hpieces, hbefore, -⟩
  · rw [components_eq, hpieces, components_of_text_empty htext, componentsOf, firstComponent?,
      if_neg h.ne_empty, if_neg h.ne_here, component?_of_isFileName h]
    rfl
  · rw [components_eq, hpieces, componentsOf_concat hne, hbefore, component?_of_isFileName h]
    rfl

/-- A path that ends in a name does not call for a directory. -/
theorem endsInDirectory_join (path : Path) {name : String} (h : IsFileName name) :
    (path.join ⟨name⟩).endsInDirectory = false := by
  have hlast : (path.join ⟨name⟩).pieces.getLast? = some name.toList := by
    rcases pieces_join path h with ⟨-, hpieces⟩ | ⟨before, -, hpieces, -⟩ <;> simp [hpieces]
  unfold endsInDirectory
  rw [hlast]
  split
  · next heq => exact absurd (Option.some.inj heq) h.ne_empty
  · next heq => exact absurd (Option.some.inj heq) h.ne_here
  · rfl

/-! ## Pieces put together -/

/-- The pieces of a text that was put together from pieces. -/
theorem pieces_intercalate {parts : List (List Char)} (hne : parts ≠ [])
    (hsep : ∀ p ∈ parts, '/' ∉ p) :
    (⟨"/".intercalate (parts.map String.ofList)⟩ : Path).pieces = parts := by
  induction parts with
  | nil => exact absurd rfl hne
  | cons part rest ih =>
      have hpart : '/' ∉ part := hsep part (by simp)
      cases rest with
      | nil =>
          simp only [List.map_cons, List.map_nil, String.intercalate_singleton, pieces,
            String.toList_ofList]
          simpa using piecesGo_of_notMem hpart []
      | cons next more =>
          have hrest := ih (by simp) fun p hp => hsep p (by simp [hp])
          rw [List.map_cons, String.intercalate_cons_of_ne_nil (by simp), pieces]
          simp only [String.toList_append, String.toList_ofList]
          rw [show "/".toList = ['/'] from rfl, List.append_assoc, List.singleton_append,
            piecesGo_append]
          rw [pieces] at hrest
          rw [hrest, piecesGo_of_notMem hpart]
          rfl

end StructMatch.Path
