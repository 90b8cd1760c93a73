import LintBus.Proofs.Json.Commented
import LintBus.Proofs.Text.Lines

/-!
# Places in a text without its comments

Where comments are replaced by blanks, every character stays where it is: the characters of a
comment become spaces one by one, line feeds stay, and what stands outside of comments is left
alone.  So the text has the same lines, and each place has the same line and column as before.
-/

namespace LintBus
namespace Json

/-- A comment outside of strings, and what comes after it. -/
inductive IsComment : List Char → List Char → Prop
  /-- A line comment ends before the next line feed, or with the text. -/
  | line {body after : List Char} (one_line : '\n' ∉ body)
      (ended : after = [] ∨ after.head? = some '\n') : IsComment ('/' :: '/' :: body) after
  /-- A block comment ends with the first star and slash. -/
  | block {body : List Char} (first : ¬ ['*', '/'] <:+: body ++ ['*']) (after : List Char) :
      IsComment ('/' :: '*' :: body ++ ['*', '/']) after
  /-- A block comment without an end goes on to the end of the text. -/
  | unclosed {body : List Char} (endless : ¬ ['*', '/'] <:+: body) :
      IsComment ('/' :: '*' :: body) []

/-- The character at an index stands in a comment, which begins outside of strings and of other
comments. -/
inductive InComment : List Char → Nat → Prop
  | inside {comment after : List Char} {index : Nat} (is_comment : IsComment comment after)
      (within : index < comment.length) : InComment (comment ++ after) index
  | afterComment {comment after : List Char} {index : Nat} (is_comment : IsComment comment after)
      (later : InComment after index) : InComment (comment ++ after) (comment.length + index)
  | afterString {body after : List Char} {index : Nat} (quoted : IsQuoted body)
      (later : InComment after index) :
      InComment ('"' :: body ++ '"' :: after) (body.length + 2 + index)
  | afterCharacter {character : Char} {after : List Char} {index : Nat}
      (not_quote : character ≠ '"')
      (not_comment : character = '/' → after.head? ≠ some '/' ∧ after.head? ≠ some '*')
      (later : InComment after index) : InComment (character :: after) (index + 1)

private theorem IsComment.blankFrom_eq {comment after : List Char}
    (is_comment : IsComment comment after) :
    blankFrom .outside (comment ++ after) = comment.map blankFor ++ blankFrom .outside after := by
  cases is_comment with
  | @line body _ one_line ended =>
      have spaces : body.map (fun _ => ' ') = body.map blankFor := by
        refine List.map_congr_left fun character found => ?_
        have not_feed : character ≠ '\n' := fun feed => one_line (feed ▸ found)
        rw [blankFor, if_neg not_feed]
      rw [List.cons_append, List.cons_append, blankFrom, blankFrom_lineComment one_line ended,
        spaces]
      rfl
  | @block body first =>
      rw [List.append_assoc, List.cons_append, List.cons_append, blankFrom]
      rw [List.cons_append, List.singleton_append, blankFrom_blockComment first]
      simp [blankFor]
  | @unclosed body endless =>
      have none_ended : ¬ ['*', '/'] <:+: starBefore false ++ body := endless
      have blanked : blankFrom .outside ('/' :: '*' :: body) = ' ' :: ' ' :: body.map blankFor := by
        rw [blankFrom, blankFrom_openComment none_ended]
      rw [List.append_nil, blanked]
      simp [blankFrom, blankFor]

private theorem blankFrom_string {body : List Char} (quoted : IsQuoted body) (after : List Char) :
    blankFrom .outside ('"' :: body ++ '"' :: after) =
      '"' :: body ++ '"' :: blankFrom .outside after := by
  rw [List.cons_append, blankFrom, blankFrom_quoted quoted, List.cons_append]

private theorem InComment.blanked {text : List Char} {index : Nat}
    (in_comment : InComment text index) :
    (blankFrom .outside text)[index]? = text[index]?.map blankFor := by
  induction in_comment with
  | inside is_comment within =>
      rw [is_comment.blankFrom_eq, List.getElem?_append_left (by simpa using within),
        List.getElem?_append_left within, List.getElem?_map]
  | afterComment is_comment _ induction =>
      rw [is_comment.blankFrom_eq, List.getElem?_append_right (by simp),
        List.getElem?_append_right (by simp)]
      simpa using induction
  | @afterString body after index quoted _ induction =>
      have skipped (rest : List Char) :
          ('"' :: body ++ '"' :: rest)[body.length + 2 + index]? = rest[index]? := by
        rw [List.append_cons, List.getElem?_append_right (by simp)]
        simp
      rw [blankFrom_string quoted, skipped, skipped, induction]
  | afterCharacter not_quote not_comment _ induction =>
      rw [blankFrom_outside not_quote not_comment, List.getElem?_cons_succ, List.getElem?_cons_succ,
        induction]

/-- Where two texts that begin with as many characters differ, they differ in these characters or
after them. -/
theorem differ_cases {front other after rest : List Char}
    (same_length : other.length = front.length) {index : Nat}
    (differ : (other ++ rest)[index]? ≠ (front ++ after)[index]?) :
    index < front.length ∧ other[index]? ≠ front[index]? ∨
      ∃ later, index = front.length + later ∧ rest[later]? ≠ after[later]? := by
  by_cases within : index < front.length
  · rw [List.getElem?_append_left (by omega), List.getElem?_append_left within] at differ
    exact .inl ⟨within, differ⟩
  · rw [List.getElem?_append_right (by omega), List.getElem?_append_right (by omega),
      same_length] at differ
    exact .inr ⟨index - front.length, by omega, differ⟩

/-- Only characters of comments are altered. -/
theorem inComment_of_altered {text : List Char} {index : Nat}
    (altered : (blankFrom .outside text)[index]? ≠ text[index]?) : InComment text index := by
  obtain ⟨result, rest, replaces⟩ := exists_replaces text
  have of_comment {comment after : List Char} {index : Nat} (is_comment : IsComment comment after)
      (altered : (blankFrom .outside (comment ++ after))[index]? ≠ (comment ++ after)[index]?)
      (later_in_comment : ∀ {later},
        (blankFrom .outside after)[later]? ≠ after[later]? → InComment after later) :
      InComment (comment ++ after) index := by
    rw [is_comment.blankFrom_eq] at altered
    rcases differ_cases (by simp) altered with ⟨within, -⟩ | ⟨later, rfl, later_altered⟩
    · exact .inside is_comment within
    · exact .afterComment is_comment (later_in_comment later_altered)
  induction replaces generalizing index with
  | @stop rest ended =>
      rcases ended with rfl | unclosed | ⟨inner, rfl, endless⟩
      · exact absurd rfl altered
      · exact absurd (congrArg (·[index]?) unclosed.blankFrom_eq) altered
      · rw [← List.append_nil ('/' :: '*' :: inner)] at altered ⊢
        exact of_comment (.unclosed endless) altered fun altered => absurd rfl altered
  | @character character source _ _ not_quote not_comment _ induction =>
      rw [blankFrom_outside not_quote not_comment] at altered
      cases index with
      | zero => exact absurd rfl altered
      | succ index => exact .afterCharacter not_quote not_comment (induction altered)
  | @string body source _ _ quoted _ induction =>
      rw [blankFrom_string quoted, List.append_cons, List.append_cons _ _ source] at altered
      rcases differ_cases rfl altered with ⟨-, differ⟩ | ⟨later, rfl, later_altered⟩
      · exact absurd rfl differ
      · have string_length : ('"' :: body ++ ['"']).length = body.length + 2 := by simp
        rw [string_length]
        exact .afterString quoted (induction later_altered)
  | lineComment one_line ended _ _ induction =>
      exact of_comment (.line one_line ended) altered induction
  | @blockComment body _ source _ _ first _ _ induction =>
      have text_eq : '/' :: '*' :: body ++ '*' :: '/' :: source =
          ('/' :: '*' :: body ++ ['*', '/']) ++ source := by simp
      rw [text_eq] at altered ⊢
      exact of_comment (.block first source) altered induction

/-- The one character is left alone or becomes a space, if it is no line feed. -/
def Keeps (character blanked : Char) : Prop :=
  blanked = character ∨ character ≠ '\n' ∧ blanked = ' '

private theorem keeps_blankFor (character : Char) : Keeps character (blankFor character) := by
  rw [blankFor]
  split
  · next feed => exact .inl feed.symm
  · next not_feed => exact .inr ⟨not_feed, rfl⟩

private theorem Keeps.sameFeed {character blanked : Char} (keeps : Keeps character blanked) :
    SameFeed blanked character := by
  rcases keeps with rfl | ⟨not_feed, rfl⟩
  · exact Iff.rfl
  · exact ⟨fun feed => absurd feed (by decide), fun feed => absurd feed not_feed⟩

private theorem keeps_blankFrom (context : Context) (text : List Char) :
    List.Forall₂ Keeps text (blankFrom context text) := by
  have same (character : Char) : Keeps character character := .inl rfl
  fun_induction blankFrom context text with
  | case1 => exact .nil
  | case2 escaped rest induction => exact .cons (same _) (.cons (same _) induction)
  | case3 rest induction => exact .cons (same _) induction
  | case4 character rest _ _ induction => exact .cons (same _) induction
  | case5 rest induction => exact .cons (same _) induction
  | case6 rest induction | case7 rest induction =>
      exact .cons (keeps_blankFor '/') (.cons (keeps_blankFor _) induction)
  | case8 character rest _ _ _ induction => exact .cons (same _) induction
  | case9 rest induction => exact .cons (same _) induction
  | case10 character rest not_feed induction => exact .cons (.inr ⟨not_feed, rfl⟩) induction
  | case11 star character rest induction => exact .cons (keeps_blankFor _) induction

/-- Where a text goes on that was blanked from a context: comments are no longer seen. -/
def Context.blanked : Context → Context
  | .string => .string
  | _ => .outside

private theorem head?_blankFrom (text : List Char) :
    (blankFrom .outside text).head? = text.head? ∨
      (blankFrom .outside text).head? = some ' ' := by
  have keeps := keeps_blankFrom .outside text
  cases text with
  | nil => exact .inl rfl
  | cons character rest =>
      obtain ⟨blanked, others, kept, -, blanked_eq⟩ := List.forall₂_cons_left_iff.mp keeps
      rw [blanked_eq]
      rcases kept with rfl | ⟨-, rfl⟩
      · exact .inl rfl
      · exact .inr rfl

/-- What was blanked is left alone when it is blanked again.  No comment begins with a slash that is
left, since the character after it is left as well or a space. -/
theorem blankFrom_blanked (context : Context) (text : List Char) :
    blankFrom context.blanked (blankFrom context text) = blankFrom context text := by
  have space (rest : List Char) :
      blankFrom .outside (' ' :: rest) = ' ' :: blankFrom .outside rest :=
    blankFrom_outside (by decide) (by simp)
  have blank (character : Char) (rest : List Char) :
      blankFrom .outside (blankFor character :: rest) =
        blankFor character :: blankFrom .outside rest := by
    rw [blankFor]
    split
    · exact blankFrom_outside (by decide) (by simp)
    · exact space rest
  fun_induction blankFrom context text with
  | case1 => rfl
  | case2 escaped rest induction => exact congrArg ('\\' :: escaped :: ·) induction
  | case3 rest induction => exact congrArg ('"' :: ·) induction
  | case4 character rest not_escape not_quote induction =>
      simp only [Context.blanked] at induction ⊢
      rw [blankFrom, induction]
      · rintro escaped others rfl rest_eq
        cases rest with
        | nil => simp [blankFrom] at rest_eq
        | cons second rest => exact not_escape second rest rfl rfl
      · exact not_quote
  | case5 rest induction => exact congrArg ('"' :: ·) induction
  | case6 rest induction | case7 rest induction =>
      simp only [Context.blanked] at induction ⊢
      rw [space, space, induction]
  | case8 character rest not_quote not_line not_block induction =>
      simp only [Context.blanked] at induction ⊢
      rw [blankFrom_outside not_quote, induction]
      rintro rfl
      rcases head?_blankFrom rest with head_eq | head_eq
      · rw [head_eq]
        refine ⟨fun slash => ?_, fun star => ?_⟩
        · obtain ⟨others, rest_eq⟩ := List.head?_eq_some_iff.mp slash
          exact not_line others rfl rest_eq
        · obtain ⟨others, rest_eq⟩ := List.head?_eq_some_iff.mp star
          exact not_block others rfl rest_eq
      · simp [head_eq]
  | case9 rest induction =>
      simp only [Context.blanked] at induction ⊢
      rw [blankFrom_outside (by decide) (by simp), induction]
  | case10 character rest not_feed induction =>
      simp only [Context.blanked] at induction ⊢
      rw [space, induction]
  | case11 star character rest induction =>
      have outside : Context.blanked (if star && character == '/' then .outside
          else .blockComment (character == '*')) = .outside := by
        split
        · rfl
        · rfl
      rw [outside] at induction
      simp only [Context.blanked]
      rw [blank, induction]

private theorem toList_blankOutComments (source : String) :
    (blankOutComments source).toList = blankFrom .outside source.toList := String.toList_ofList

/-- The blanked text has its line feeds where the source has them. -/
theorem sameFeed_blankOutComments (source : String) :
    List.Forall₂ SameFeed (blankOutComments source).toList source.toList := by
  rw [toList_blankOutComments]
  exact (keeps_blankFrom .outside source.toList).flip.imp fun _ _ (keeps : Keeps _ _) =>
    keeps.sameFeed

/-- Comments are blanked in place.  The blanked text has as many characters as the source, and line
feeds at the same indices; a character that is altered stands in a comment and becomes a space, and
all characters of comments become spaces but for the line feeds; and there is nothing to blank in a
blanked text.  So the lines have as many characters as before, and what is at a line and a column
of the blanked text is at the same line and column of the source. -/
theorem blankOutComments_in_place (source : String) :
    (blankOutComments source).length = source.length ∧
      (∀ index : Nat, (blankOutComments source).toList[index]? = some '\n' ↔
        source.toList[index]? = some '\n') ∧
      (∀ index : Nat, (blankOutComments source).toList[index]? ≠ source.toList[index]? →
        InComment source.toList index ∧
          (blankOutComments source).toList[index]? = some ' ') ∧
      (∀ index : Nat, InComment source.toList index →
        (blankOutComments source).toList[index]? = source.toList[index]?.map blankFor) ∧
      blankOutComments (blankOutComments source) = blankOutComments source ∧
      (piecesAt '\n' (blankOutComments source).toList).map List.length =
        (piecesAt '\n' source.toList).map List.length ∧
      ∀ index : Nat, Position.ofOffset (blankOutComments source).toList index =
        Position.ofOffset source.toList index := by
  have same_feeds := sameFeed_blankOutComments source
  refine ⟨?_, fun index => ?_, fun index altered => ?_, fun index in_comment => ?_, ?_,
    length_piecesAt_congr same_feeds, Position.ofOffset_congr same_feeds⟩
  · rw [← String.length_toList, ← String.length_toList, same_feeds.length_eq]
  · exact getElem?_eq_feed_congr same_feeds index
  · rw [toList_blankOutComments] at altered ⊢
    have in_comment := inComment_of_altered altered
    refine ⟨in_comment, ?_⟩
    rw [in_comment.blanked] at altered ⊢
    cases found : source.toList[index]? with
    | none => simp [found] at altered
    | some character =>
        have not_feed : character ≠ '\n' := by
          rintro rfl
          simp [found, blankFor] at altered
        rw [Option.map_some, blankFor, if_neg not_feed]
  · rw [toList_blankOutComments, in_comment.blanked]
  · rw [← String.toList_inj, toList_blankOutComments, toList_blankOutComments]
    exact blankFrom_blanked .outside source.toList

end Json
end LintBus
