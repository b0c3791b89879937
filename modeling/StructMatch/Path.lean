/-!
# File paths

A path is a text in which `/` separates components.  The text is kept as it was given, so that
messages show it so, while comparison and look-up go by components: repeated separators and `.`
components other than a leading one do not count.
-/

namespace StructMatch

/-- A path of a file or directory as it was written. -/
structure Path where
  text : String
deriving DecidableEq

/-- One step along a path. -/
inductive Component where
  | root
  | here
  | up
  | name (name : String)
deriving DecidableEq

namespace Path

/-- The pieces between separators, as they stand. -/
def pieces (path : Path) : List (List Char) := go [] path.text.toList
where
  /-- Splits the rest of a text, with the current piece collected in reverse. -/
  go (piece : List Char) : List Char → List (List Char)
    | [] => [piece.reverse]
    | c :: cs => if c = '/' then piece.reverse :: go [] cs else go (c :: piece) cs

/-- Whether the path begins at the root. -/
def isAbsolute (path : Path) : Bool := path.text.toList.head? = some '/'

/-- The component that a piece inside a path stands for. -/
def component? : List Char → Option Component
  | [] => none
  | ['.'] => none
  | ['.', '.'] => some .up
  | cs => some (.name (String.ofList cs))

/-- The pieces of a path, each with the component that it stands for, if it stands for one. -/
def steps (path : Path) : List (List Char × Option Component) :=
  match path.pieces with
  | [] => []
  | piece :: rest =>
    let first :=
      if piece = [] && path.isAbsolute then some .root
      else if piece = ['.'] then some .here
      else component? piece
    (piece, first) :: rest.map fun piece => (piece, component? piece)

/-- The components of a path. -/
def components (path : Path) : List Component := path.steps.filterMap (·.2)

/-- The path that leads along `other` from this one.  An absolute `other` replaces it. -/
def join (path other : Path) : Path :=
  if other.isAbsolute || path.text.isEmpty then other
  else if path.text.toList.getLast? = some '/' then ⟨path.text ++ other.text⟩
  else ⟨path.text ++ "/" ++ other.text⟩

/-- The reversed pieces of a path from its last proper component on. -/
def dropTrailing : List (List Char) → List (List Char)
  | [] => []
  | [piece] => [piece]
  | piece :: next :: rest =>
    if piece = [] || piece = ['.'] then dropTrailing (next :: rest) else piece :: next :: rest

/-- The path of the directory that holds the last component. -/
def parent? (path : Path) : Option Path :=
  match dropTrailing path.pieces.reverse with
  | [] => none
  | [[]] => none
  | [_] => some ⟨""⟩
  | _ :: rest =>
    match dropTrailing rest with
    | [[]] => some ⟨"/"⟩
    | above => some ⟨"/".intercalate (above.reverse.map String.ofList)⟩

/-- Whether the path ends in a way that only a directory fits: in a separator or a `.`. -/
def endsInDirectory (path : Path) : Bool :=
  match path.pieces.getLast? with
  | some [] => true
  | some ['.'] => true
  | _ => false

/-- The path that is left of this one after all of `base`, if it leads through that first.  Of the
pieces that are left, those at the two ends that stand for nothing are dropped. -/
def after? (path base : Path) : Option Path :=
  (go base.components path.steps).map fun left =>
    let left := left.dropWhile (·.2.isNone)
    let left := (left.reverse.dropWhile (·.2.isNone)).reverse
    ⟨"/".intercalate (left.map fun step => String.ofList step.1)⟩
where
  /-- What follows the components of the base. -/
  go : List Component → List (List Char × Option Component) →
      Option (List (List Char × Option Component))
    | [], left => some left
    | _ :: _, [] => none
    | b :: base, (_, none) :: left => go (b :: base) left
    | b :: base, (_, some c) :: left => if b = c then go base left else none

/-! ## The way up -/

/-- How long the text of some pieces is, with a separator for each of them. -/
def span : List (List Char) → Nat
  | [] => 0
  | piece :: rest => piece.length + 1 + span rest

theorem span_append (pieces more : List (List Char)) :
    span (pieces ++ more) = span pieces + span more := by
  induction pieces with
  | nil => rw [List.nil_append, span, Nat.zero_add]
  | cons piece rest ih => simp only [List.cons_append, span, ih, Nat.add_assoc]

theorem span_reverse (pieces : List (List Char)) : span pieces.reverse = span pieces := by
  induction pieces with
  | nil => rfl
  | cons piece rest ih =>
      rw [List.reverse_cons, span_append, ih, span, span, span]
      exact Nat.add_comm ..

theorem span_piecesGo (piece cs : List Char) :
    span (pieces.go piece cs) = piece.length + cs.length + 1 := by
  induction cs generalizing piece with
  | nil => simp [pieces.go, span]
  | cons c cs ih => by_cases hc : c = '/' <;> simp [pieces.go, hc, span, ih] <;> omega

theorem span_pieces (path : Path) : span path.pieces = path.text.length + 1 := by
  rw [pieces, span_piecesGo, List.length_nil, Nat.zero_add, String.length_toList]

theorem length_intercalate_le (pieces : List (List Char)) :
    ("/".intercalate (pieces.map String.ofList)).length ≤ span pieces := by
  induction pieces with
  | nil => exact Nat.zero_le _
  | cons piece rest ih =>
      cases rest with
      | nil => simp [span]
      | cons next more =>
          rw [List.map_cons, String.intercalate_cons_of_ne_nil (by simp), String.length_append,
            String.length_append, String.length_ofList, span]
          exact Nat.add_le_add_left ih _

theorem span_dropTrailing_le (pieces : List (List Char)) :
    span (dropTrailing pieces) ≤ span pieces := by
  fun_induction dropTrailing pieces with
  | case3 _ _ _ _ ih => exact Nat.le_trans ih (Nat.le_add_left ..)
  | _ => exact Nat.le_refl _

/-- What is kept ends in a proper component, unless it is a single piece. -/
theorem proper_of_dropTrailing {pieces rest : List (List Char)} {piece : List Char}
    (h : dropTrailing pieces = piece :: rest) (hrest : rest ≠ []) :
    piece ≠ [] ∧ piece ≠ ['.'] := by
  fun_induction dropTrailing pieces with
  | case1 => exact absurd h (by simp)
  | case2 => exact absurd (List.cons.inj h).2.symm hrest
  | case3 _ _ _ _ ih => exact ih h
  | case4 first next more hkeep =>
      obtain ⟨rfl, -⟩ := List.cons.inj h
      simpa using hkeep

/-- The parent of a path has a shorter text. -/
theorem length_parent?_lt {path above : Path} (h : path.parent? = some above) :
    above.text.length < path.text.length := by
  have hkept := span_dropTrailing_le path.pieces.reverse
  rw [span_reverse, span_pieces] at hkept
  unfold parent? at h
  split at h
  · exact absurd h (by simp)
  · exact absurd h (by simp)
  · next piece hpiece heq =>
      obtain rfl := Option.some.inj h
      have hpos : 0 < piece.length := List.length_pos_iff.2 fun hnil => hpiece (by rw [hnil])
      rw [heq, span] at hkept
      show 0 < _
      omega
  · next piece rest _ hrest heq =>
      have hpos : 0 < piece.length := List.length_pos_iff.2 (proper_of_dropTrailing heq hrest).1
      have habove := span_dropTrailing_le rest
      rw [heq, span] at hkept
      split at h
      · next htop =>
          obtain rfl := Option.some.inj h
          have hone : span [[]] = "/".length := rfl
          rw [htop, hone] at habove
          show "/".length < _
          omega
      · obtain rfl := Option.some.inj h
        have hlength := length_intercalate_le (dropTrailing rest).reverse
        rw [span_reverse] at hlength
        change ("/".intercalate _).length < _
        omega

end Path

/-- A component as it is written. -/
def Component.text : Component → String
  | .root => "/"
  | .here => "."
  | .up => ".."
  | .name n => n

/-- A file name without its extension, and the extension.  A dot at the very beginning of a name
does not begin an extension. -/
def splitExtension (name : String) : String × Option String :=
  match go name.toList with
  | some (c :: cs, extension) => (String.ofList (c :: cs), some (String.ofList extension))
  | _ => (name, none)
where
  /-- The text before and after the last dot. -/
  go : List Char → Option (List Char × List Char)
    | [] => none
    | c :: cs =>
      match go cs with
      | some (before, after) => some (c :: before, after)
      | none => if c = '.' then some ([], cs) else none

end StructMatch
