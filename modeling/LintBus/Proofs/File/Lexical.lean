import LintBus.Proofs.File.Canonical

/-!
# Canonical paths by their segments

A canonical path is a slash and the names that are left when the segments of a path are put on a
stack one by one: empty segments and dots leave it as it is, and two dots take the last name off.
The stack of segments in a row is the stack of the later ones on top of that of the earlier ones, so
that a path can be resolved piece by piece.
-/

namespace LintBus
namespace FilePath

/-- The names on the stack after one more segment; the last name is on top. -/
def settle (names : List (List Char)) (segment : List Char) : List (List Char) :=
  if segment = [] ∨ segment = ['.'] then names
  else if segment = ['.', '.'] then names.dropLast
  else names ++ [segment]

/-- The names that are left of some segments, from the root on. -/
def settled (segments : List (List Char)) : List (List Char) := segments.foldl settle []

/-- The segments that a path stands for: its own, after those of the base if it is relative. -/
def segments (path : String) (base : FilePath) : List (List Char) :=
  if isAbsolute ⟨path⟩ then piecesAt '/' path.toList
  else piecesAt '/' base.text.toList ++ piecesAt '/' path.toList

private theorem settled_append (one other : List (List Char)) :
    settled (one ++ other) = other.foldl settle (settled one) := List.foldl_append

private theorem reverse_foldl_pushComponent (segments names : List (List Char)) :
    (((segments.filter fun segment => segment != [] && segment != ['.']).map
      Component.ofSegment).foldl pushComponent names).reverse =
        segments.foldl settle names.reverse := by
  induction segments generalizing names with
  | nil => rfl
  | cons segment segments induction =>
      by_cases ignored : segment = [] ∨ segment = ['.']
      · rw [List.filter_cons_of_neg (by simpa [imp_iff_not_or] using ignored), induction,
          List.foldl_cons, settle, if_pos ignored]
      · obtain ⟨ne_nil, ne_current⟩ := not_or.mp ignored
        rw [List.filter_cons_of_pos (by simp [ne_nil, ne_current]), List.map_cons,
          List.foldl_cons, induction, List.foldl_cons, settle, if_neg ignored,
          Component.ofSegment]
        by_cases up : segment = ['.', '.']
        · rw [if_pos up, if_pos up, pushComponent, List.dropLast_reverse]
        · rw [if_neg up, if_neg up, pushComponent, List.reverse_cons]

private theorem resolve_components {path : FilePath} (rooted : path.isAbsolute = true) :
    resolve path.components = settled (piecesAt '/' path.text.toList) := by
  have head_eq : path.text.toList.head? = some '/' := by simpa [isAbsolute] using rooted
  rw [resolve, components, componentsOf, if_pos head_eq, List.foldl_cons]
  exact reverse_foldl_pushComponent (piecesAt '/' path.text.toList) []

variable {base : FilePath} {path : String}

private theorem isAbsolute_join (rooted : base.isAbsolute = true) (path : FilePath) :
    (base.join path).isAbsolute = true := by
  rw [join]
  split
  · assumption
  · have head_eq : base.text.toList.head? = some '/' := by simpa [isAbsolute] using rooted
    obtain ⟨rest, text_eq⟩ := List.head?_eq_some_iff.mp head_eq
    split
    · simp [isAbsolute, text_eq]
    · simp [isAbsolute, text_eq]

/-- A path joined to a base is resolved like their segments in a row. -/
theorem settled_join (rooted : base.isAbsolute = true) (path : String) :
    settled (piecesAt '/' (base.join ⟨path⟩).text.toList) = settled (segments path base) := by
  rw [join, segments]
  by_cases absolute : isAbsolute ⟨path⟩ = true
  · rw [if_pos absolute, if_pos absolute]
  · rw [if_neg absolute, if_neg absolute]
    have head_eq : base.text.toList.head? = some '/' := by simpa [isAbsolute] using rooted
    have nonempty : base.text.isEmpty = false := by
      rw [String.isEmpty_eq_false_iff]
      rintro empty
      simp [empty] at head_eq
    by_cases slashed : base.text.toList.getLast? = some '/'
    · -- a slash at the end of the base leaves an empty segment before those of the path
      obtain ⟨front, text_eq⟩ := List.getLast?_eq_some_iff.mp slashed
      rw [if_pos (.inr slashed), String.toList_append, text_eq, List.append_assoc,
        List.singleton_append, piecesAt_append_cons, piecesAt_append_cons, settled_append,
        settled_append, settled_append]
      rfl
    · have joined : (base.text ++ "/" ++ path).toList = base.text.toList ++ '/' :: path.toList := by
        simp
      rw [if_neg (by simp [nonempty, slashed]), joined, piecesAt_append_cons]

private theorem canonical_eq (rooted : base.isAbsolute = true) (path : String) :
    canonical path base = ofNames true (settled (segments path base)) := by
  rw [canonical, isAbsolute_join rooted, resolve_components (isAbsolute_join rooted _),
    settled_join rooted]

private theorem isName_of_settled (rooted : base.isAbsolute = true) {name : List Char}
    (found : name ∈ settled (segments path base)) : IsName name := by
  rw [← settled_join rooted, ← resolve_components (isAbsolute_join rooted _)] at found
  exact isName_of_resolve found

private theorem ofNames_text (names : List (List Char)) :
    (ofNames true names).text.toList = '/' :: List.intercalate ['/'] names := by
  simp [ofNames]

private theorem isAbsolute_ofNames (names : List (List Char)) :
    (ofNames true names).isAbsolute = true := by
  rw [isAbsolute, ofNames_text]
  rfl

private theorem settled_ofNames {names : List (List Char)} (named : ∀ name ∈ names, IsName name) :
    settled (piecesAt '/' (ofNames true names).text.toList) = names := by
  have pushed : (names.map Component.name).foldl pushComponent [] = names.reverse := by
    rw [List.foldl_map, ← List.append_nil names.reverse]
    exact List.foldl_flip_cons_eq_append'
  rw [← resolve_components (isAbsolute_ofNames names), components_ofNames true named, resolve,
    if_pos rfl, List.singleton_append, List.foldl_cons, pushComponent, pushed,
    List.reverse_reverse]

private theorem canonical_of_isAbsolute (absolute : isAbsolute ⟨path⟩ = true) (base : FilePath) :
    canonical path base = ofNames true (settled (piecesAt '/' path.toList)) := by
  rw [canonical, join, if_pos absolute, absolute, resolve_components absolute]

private theorem segments_append (nonempty : path ≠ "") (relative : String) :
    segments (path ++ "/" ++ relative) base =
      segments path base ++ piecesAt '/' relative.toList := by
  have joined : (path ++ "/" ++ relative).toList = path.toList ++ '/' :: relative.toList := by
    simp
  have absolute_eq : isAbsolute ⟨path ++ "/" ++ relative⟩ = isAbsolute ⟨path⟩ := by
    obtain ⟨first, others, text_eq⟩ :=
      List.exists_cons_of_ne_nil (mt String.toList_eq_nil_iff.mp nonempty)
    rw [isAbsolute, isAbsolute, joined, text_eq, List.cons_append, List.head?_cons,
      List.head?_cons]
  rw [segments, segments, absolute_eq, joined, piecesAt_append_cons]
  split
  · rfl
  · rw [List.append_assoc]

/-- A canonical path is a slash followed by the names that are left of the segments of the path, or
of those of the base and the path if the path is relative, with slashes between them.  It is
absolute, and none of its segments is empty, a dot or two dots.  Canonical paths are written alike
if and only if they are the same; a canonical path is its own canonical form, whatever the base; and
resolving a relative path against a canonical one is resolving both at once. -/
theorem canonical_lexical (rooted : base.isAbsolute = true) (path : String) :
    (canonical path base).text.toList =
        '/' :: List.intercalate ['/'] (settled (segments path base)) ∧
      (canonical path base).isAbsolute = true ∧
      (∀ name ∈ settled (segments path base), IsName name) ∧
      (∀ (other : String) (base' : FilePath),
        (canonical path base).same (canonical other base') = true ↔
          (canonical path base).text = (canonical other base').text) ∧
      (∀ base', canonical (canonical path base).text base' = canonical path base) ∧
      ∀ relative : String, path ≠ "" → isAbsolute ⟨relative⟩ = false →
        canonical relative (canonical path base) = canonical (path ++ "/" ++ relative) base := by
  have names_eq := canonical_eq rooted path
  have named : ∀ name ∈ settled (segments path base), IsName name :=
    fun name found => isName_of_settled rooted found
  have absolute : (canonical path base).isAbsolute = true := by
    rw [names_eq, isAbsolute_ofNames]
  have again : settled (piecesAt '/' (canonical path base).text.toList) =
      settled (segments path base) := by
    rw [names_eq, settled_ofNames named]
  refine ⟨?_, absolute, named, fun other base' => ⟨fun same => ?_, fun same => ?_⟩,
    fun base' => ?_, fun relative nonempty is_relative => ?_⟩
  · rw [names_eq, ofNames_text]
  · rw [canonical_eq_of_same same]
  · have path_eq : canonical path base = canonical other base' := congrArg FilePath.mk same
    rw [path_eq, same_refl]
  · have resolved : canonical (canonical path base).text base' =
        ofNames true (settled (piecesAt '/' (canonical path base).text.toList)) :=
      canonical_of_isAbsolute absolute base'
    rw [resolved, again, names_eq]
  · have segments_eq : segments relative (canonical path base) =
        piecesAt '/' (canonical path base).text.toList ++ piecesAt '/' relative.toList := by
      rw [segments, is_relative, if_neg Bool.false_ne_true]
    rw [canonical_eq absolute, segments_eq, settled_append, again, canonical_eq rooted,
      segments_append nonempty, settled_append]

theorem canonical_lexical_above_root :
    (canonical "../b//.././c/" ⟨"/a"⟩).text.toList = "/c".toList ∧
      canonical "../d" (canonical "../b//.././c/" ⟨"/a"⟩) =
        canonical ("../b//.././c/" ++ "/" ++ "../d") ⟨"/a"⟩ := by
  obtain ⟨text_eq, -, -, -, -, resumed⟩ :=
    @canonical_lexical ⟨"/a"⟩ (by decide) "../b//.././c/"
  exact ⟨text_eq.trans (by decide +kernel), resumed "../d" (by decide) (by decide)⟩

end FilePath
end LintBus
