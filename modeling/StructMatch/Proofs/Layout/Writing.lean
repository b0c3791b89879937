import StructMatch.Proofs.Layout.Sheet

/-!
# What a layout writes

Which lines a layout breaks depends on widths, but some properties of what it writes do not.  They
are proved backwards, from the end of the text to its beginning: `Emits` says that documents,
wherever their lines are broken, turn any text after them that has one property into a text that has
another.
-/

namespace StructMatch.Layout

variable {page : Page} {mode : Mode} {docs more : List Doc}
  {after between before : List Char → Prop}

/-- Whether a text can come next on a sheet.  Blanks are left out at the end of a line. -/
def Sheet.GoesOn (sheet : Sheet) (cs : List Char) : Prop :=
  cs = [] ∨ (∃ rest, cs = '\n' :: rest) ∨ ∃ rest, cs = List.replicate sheet.pending ' ' ++ rest

/-- Whether documents turn every text after them that has one property into a text that has another,
for all layouts. -/
def Emits (page : Page) (mode : Mode) (docs : List Doc) (after before : List Char → Prop) : Prop :=
  ∀ (indent : Int) (further : Nat) (sheet : Sheet) (ahead : List Char),
    (layOutAll page mode indent further docs sheet).GoesOn ahead → after ahead →
    ∃ cs, (layOutAll page mode indent further docs sheet).text.toList ++ ahead =
      sheet.text.toList ++ cs ∧ sheet.GoesOn cs ∧ before cs

/-- Whether a property is kept by a blank before the text. -/
def KeptByBlanks (kind : List Char → Prop) : Prop := ∀ cs, kind cs → kind (' ' :: cs)

theorem KeptByBlanks.replicate (h : KeptByBlanks before) (n : Nat) {cs : List Char}
    (hcs : before cs) : before (List.replicate n ' ' ++ cs) := by
  induction n with
  | zero => exact hcs
  | succ n ih => exact h _ ih

namespace Emits

theorem mono {after' before' : List Char → Prop} (h : Emits page mode docs after before)
    (hafter : ∀ cs, after' cs → after cs) (hbefore : ∀ cs, before cs → before' cs) :
    Emits page mode docs after' before' := by
  intro indent further sheet ahead hgoes hahead
  obtain ⟨cs, htext, hcs, hkind⟩ := h indent further sheet ahead hgoes (hafter _ hahead)
  exact ⟨cs, htext, hcs, hbefore _ hkind⟩

theorem nil : Emits page mode [] after after :=
  fun _ _ _ ahead hgoes hahead => ⟨ahead, rfl, hgoes, hahead⟩

theorem append (h : Emits page mode docs between before)
    (hmore : Emits page mode more after between) : Emits page mode (docs ++ more) after before := by
  intro indent further sheet ahead hgoes hahead
  rw [layOutAll_append] at hgoes ⊢
  obtain ⟨cs, htext, hcs, hkind⟩ := hmore indent further _ ahead hgoes hahead
  obtain ⟨ds, htext', hds, hkind'⟩ := h indent _ sheet cs hcs hkind
  exact ⟨ds, htext.trans htext', hds, hkind'⟩

theorem cons {doc : Doc} (h : Emits page mode [doc] between before)
    (hmore : Emits page mode more after between) : Emits page mode (doc :: more) after before :=
  h.append hmore

/-- A text is written as it is, after the blanks that are left to write. -/
theorem text {text : String} (htext : ∀ cs, after cs → before (text.toList ++ cs))
    (hblanks : KeptByBlanks before) : Emits page mode [.text text] after before := by
  intro indent further sheet ahead _ hahead
  refine ⟨List.replicate sheet.pending ' ' ++ (text.toList ++ ahead), ?_, .inr (.inr ⟨_, rfl⟩),
    hblanks.replicate _ (htext _ hahead)⟩
  simp [layOutAll, Doc.layOut, Sheet.write]

theorem wide (hblanks : KeptByBlanks after) : Emits page mode [.wide] after after := by
  intro indent further sheet ahead _ hahead
  refine ⟨List.replicate sheet.pending ' ' ++ ahead, ?_, .inr (.inr ⟨_, rfl⟩),
    hblanks.replicate _ hahead⟩
  simp [layOutAll, Doc.layOut, Sheet.write]

/-- A group writes what its content does, either without line breaks or with its own. -/
theorem group {indent : Int} {together : Bool} {content : List Doc}
    (hflat : Emits page .flat content after before)
    (hbroken : Emits page (if together then .together else .asNeeded) content after before) :
    Emits page mode [.group indent together content] after before := by
  intro outer further sheet ahead hgoes hahead
  simp only [layOutAll, Doc.layOut] at hgoes ⊢
  split at hgoes
  · next hfits =>
      simp only [hfits, if_true]
      exact hflat _ _ _ _ hgoes hahead
  · next hfits =>
      simp only [hfits, if_false]
      exact hbroken _ _ _ _ hgoes hahead

/-- A mark before a line break is written after the blanks that are left to write, if it is there
at all. -/
theorem exists_writeMark (sheet : Sheet) (mark : String)
    (hblanks : mark ≠ "" → KeptByBlanks before) {cs : List Char}
    (h : before (mark.toList ++ '\n' :: cs)) :
    ∃ ds, (sheet.writeMark mark).text.toList ++ '\n' :: cs = sheet.text.toList ++ ds ∧
      sheet.GoesOn ds ∧ before ds := by
  unfold Sheet.writeMark
  split
  · next hempty =>
      rw [String.isEmpty_iff] at hempty
      subst hempty
      exact ⟨'\n' :: cs, rfl, .inr (.inl ⟨cs, rfl⟩), h⟩
  · next hmark =>
      rw [String.isEmpty_iff] at hmark
      refine ⟨List.replicate sheet.pending ' ' ++ (mark.toList ++ '\n' :: cs), ?_,
        .inr (.inr ⟨_, rfl⟩), (hblanks hmark).replicate _ h⟩
      simp [Sheet.write]

/-- A place where the line may end is passed, or the line ends there between its two marks. -/
theorem line {place : LineEnd}
    (hstay : place.mayEnd = false ∨ mode ≠ .together → ∀ cs, after cs →
      (place.blanks ≠ 0 → ∀ c ∈ cs.head?, c = ' ' ∨ c = '\n') → before cs)
    (hbreak : place.mayEnd = true → mode ≠ .flat → ∀ cs, after cs → ∀ blanks,
      before (place.before.toList ++ '\n' ::
        (if place.after = "" then cs else List.replicate blanks ' ' ++ (place.after.toList ++ cs))))
    (hblanks : place.before ≠ "" → KeptByBlanks before) :
    Emits page mode [.line place] after before := by
  intro indent further sheet ahead hgoes hahead
  have hlay : layOutAll page mode indent further [.line place] sheet =
      sheet.passLine page mode indent place (widthToLineEnd further []) := rfl
  rw [hlay, Sheet.passLine] at hgoes ⊢
  split at hgoes
  · next hstays =>
      -- the line goes on after the blanks of the place
      rw [if_pos hstays]
      refine ⟨ahead, rfl, ?_, hstay ?_ ahead hahead fun hgap c hc => ?_⟩
      · rcases hgoes with hnil | hline | ⟨rest, hrest⟩
        · exact .inl hnil
        · exact .inr (.inl hline)
        · refine .inr (.inr ⟨List.replicate place.blanks ' ' ++ rest, ?_⟩)
          rw [hrest, Sheet.skip, ← List.append_assoc, List.replicate_append_replicate]
      · simp only [Bool.or_eq_true, Bool.not_eq_true', decide_eq_true_eq, Bool.and_eq_true]
          at hstays
        rcases hstays with (hmay | rfl) | ⟨rfl, -⟩
        · exact .inl hmay
        · exact .inr (by decide)
        · exact .inr (by decide)
      · rcases hgoes with rfl | ⟨rest, rfl⟩ | ⟨rest, rfl⟩
        · exact absurd hc (by simp)
        · exact .inr (by simpa using hc.symm)
        · obtain ⟨n, hn⟩ := Nat.exists_eq_succ_of_ne_zero hgap
          have hpending : (sheet.skip place.blanks).pending = sheet.pending + n + 1 := by
            rw [Sheet.skip, hn]
            rfl
          rw [hpending, List.replicate_succ] at hc
          exact .inl (by simpa using hc.symm)
  · next hbreaks =>
      -- the line ends between the two marks
      rw [if_neg hbreaks]
      simp only [Bool.or_eq_true, Bool.not_eq_true', decide_eq_true_eq, not_or] at hbreaks
      have hkind := hbreak (by simpa using hbreaks.1.1) hbreaks.1.2 ahead hahead
        (indent + place.offset).toNat
      obtain ⟨cs, htext, hcs, hbefore⟩ := exists_writeMark sheet place.before hblanks hkind
      refine ⟨cs, ?_, hcs, hbefore⟩
      rw [← htext, Sheet.writeMark]
      by_cases hafter : place.after = ""
      · simp [hafter, Sheet.newLine]
      · simp [hafter, Sheet.newLine, Sheet.write]

end Emits

end StructMatch.Layout
