import LintBus.Proofs.Document.Addressing
import LintBus.Proofs.Document.Handle

/-!
# Canonical paths

A canonical path is written in one way only: its names are neither empty nor dots, so its components
give the names back.  Canonical paths that name the same file are therefore the same text.
-/

namespace LintBus
namespace FilePath

/-- The name stands for itself in a path: it is not empty, no dot, no `..`, and has no slash. -/
structure IsName (name : List Char) : Prop where
  ne_nil : name ≠ []
  ne_current : name ≠ ['.']
  ne_parent : name ≠ ['.', '.']
  slashless : '/' ∉ name

private theorem isName_of_properSegments {text segment : List Char}
    (found : segment ∈ properSegments text) (ne_parent : segment ≠ ['.', '.']) :
    IsName segment := by
  obtain ⟨piece, proper⟩ := List.mem_filter.mp found
  simp only [Bool.and_eq_true, bne_iff_ne] at proper
  exact ⟨proper.1, proper.2, ne_parent, mark_notMem_piecesAt piece⟩

private theorem isName_of_components {path : FilePath} {segment : List Char}
    (found : .name segment ∈ path.components) : IsName segment := by
  have proper : .name segment ∈
      (properSegments path.text.toList).map Component.ofSegment := by
    simp only [components, componentsOf] at found
    split at found
    · simpa using found
    · split at found
      · simpa using found
      · exact found
  obtain ⟨written, written_mem, written_eq⟩ := List.mem_map.mp proper
  simp only [Component.ofSegment] at written_eq
  split at written_eq
  · simp at written_eq
  · next ne_parent =>
      obtain rfl := Component.name.inj written_eq
      exact isName_of_properSegments written_mem ne_parent

/-- What is left after `..` has been resolved are names. -/
theorem isName_of_resolve {path : FilePath} {name : List Char}
    (found : name ∈ resolve path.components) : IsName name := by
  have pushed : ∀ (components : List Component) (names : List (List Char)),
      (∀ segment, .name segment ∈ components → IsName segment) →
      (∀ held ∈ names, IsName held) →
      ∀ held ∈ components.foldl pushComponent names, IsName held := by
    intro components
    induction components with
    | nil => exact fun names _ held_names => held_names
    | cons component rest induction =>
        intro names written held_names
        have rest_written : ∀ segment, .name segment ∈ rest → IsName segment :=
          fun segment listed => written segment (List.mem_cons_of_mem component listed)
        refine induction _ rest_written ?_
        cases component with
        | root => exact held_names
        | current => exact held_names
        | parent => exact fun held held_mem => held_names held (List.mem_of_mem_tail held_mem)
        | name segment =>
            exact List.forall_mem_cons.mpr ⟨written segment List.mem_cons_self, held_names⟩
  rw [resolve, List.mem_reverse] at found
  exact pushed path.components [] (fun _ listed => isName_of_components listed) (by simp) name
    found

/-- A path that is made of names has these names and no other components but the root. -/
theorem components_ofNames (absolute : Bool) {names : List (List Char)}
    (named : ∀ name ∈ names, IsName name) :
    (ofNames absolute names).components =
      (if absolute then [.root] else []) ++ names.map .name := by
  have kept : (names.filter fun segment => segment != [] && segment != ['.']) = names := by
    refine List.filter_eq_self.mpr fun name found => ?_
    simp [(named name found).ne_nil, (named name found).ne_current]
  have written : names.map Component.ofSegment = names.map .name := by
    refine List.map_congr_left fun name found => ?_
    simp [Component.ofSegment, (named name found).ne_parent]
  cases names with
  | nil => cases absolute <;> rfl
  | cons first rest =>
      have pieces : piecesAt '/' (List.intercalate ['/'] (first :: rest)) = first :: rest :=
        piecesAt_intercalate (List.cons_ne_nil first rest) fun name found =>
          (named name found).slashless
      have first_name := named first List.mem_cons_self
      cases absolute with
      | true =>
          have proper : properSegments ('/' :: List.intercalate ['/'] (first :: rest)) =
              first :: rest := by
            rw [properSegments, piecesAt, if_pos rfl, pieces, List.filter_cons_of_neg (by simp),
              kept]
          simp [components, ofNames, componentsOf, proper, written]
      | false =>
          have proper : properSegments (List.intercalate ['/'] (first :: rest)) =
              first :: rest := by
            rw [properSegments, pieces, kept]
          have begins : (List.intercalate ['/'] (first :: rest)).head? ≠ some '/' := by
            obtain ⟨unit, units, rfl⟩ := List.exists_cons_of_ne_nil first_name.ne_nil
            have unit_ne : unit ≠ '/' := fun same =>
              first_name.slashless (same ▸ List.mem_cons_self)
            cases rest <;> simpa using unit_ne
          simp [components, ofNames, componentsOf, proper, written, begins, pieces,
            first_name.ne_current]

private theorem ofNames_eq_of_same {absolute absolute' : Bool} {names names' : List (List Char)}
    (named : ∀ name ∈ names, IsName name) (named' : ∀ name ∈ names', IsName name)
    (same : (ofNames absolute names).same (ofNames absolute' names') = true) :
    ofNames absolute names = ofNames absolute' names' := by
  rw [same_iff, components_ofNames absolute named, components_ofNames absolute' named'] at same
  have rooted : ∀ (absolute : Bool) (names : List (List Char)),
      .root ∈ (if absolute then [Component.root] else []) ++ names.map .name ↔
        absolute = true := by
    intro absolute names
    cases absolute <;> simp
  have absolute_eq : absolute = absolute' := by
    rw [Bool.eq_iff_iff, ← rooted absolute names, same, rooted]
  subst absolute_eq
  have names_eq : names.map Component.name = names'.map Component.name :=
    List.append_cancel_left same
  rw [List.map_inj_right fun _ _ => Component.name.inj] at names_eq
  rw [names_eq]

/-- Canonical paths that are the same are written alike. -/
theorem canonical_eq_of_same {left right : String} {base base' : FilePath}
    (same : (canonical left base).same (canonical right base') = true) :
    canonical left base = canonical right base' :=
  ofNames_eq_of_same (fun _ found => isName_of_resolve found)
    (fun _ found => isName_of_resolve found) same

end FilePath
end LintBus
