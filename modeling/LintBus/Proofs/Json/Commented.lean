import LintBus.Proofs.Json.Alike
import LintBus.Proofs.Json.Plain

/-!
# Texts with comments

A text is cut into strings, comments and characters outside of both, up to a string or a comment
that is never closed.  Where no comment is left open, a text is accepted with comments exactly if
it is accepted with blanks in place of them.  An open comment is read as blanks as well.
-/

namespace LintBus
namespace Json

/-- The text begins with a string that is never closed. -/
def IsOpenString (text : List Char) : Prop :=
  ∃ inner, text = '"' :: inner ∧ ∀ body after, IsQuoted body → inner ≠ body ++ '"' :: after

/-- The text begins with a comment that is never closed. -/
def IsOpenComment (text : List Char) : Prop :=
  ∃ inner, text = '/' :: '*' :: inner ∧ ¬ ['*', '/'] <:+: inner

/-- The source with some blanks in place of each complete comment outside of strings is the result
followed by the rest, which is empty or begins with a string or a comment that is never closed. -/
inductive Replaces : List Char → List Char → List Char → Prop
  | stop {rest : List Char} (ended : rest = [] ∨ IsOpenString rest ∨ IsOpenComment rest) :
      Replaces rest [] rest
  | character {character : Char} {source result rest : List Char} (not_quote : character ≠ '"')
      (not_comment : character = '/' → source.head? ≠ some '/' ∧ source.head? ≠ some '*')
      (later : Replaces source result rest) :
      Replaces (character :: source) (character :: result) rest
  | string {body source result rest : List Char} (quoted : IsQuoted body)
      (later : Replaces source result rest) :
      Replaces ('"' :: body ++ '"' :: source) ('"' :: body ++ '"' :: result) rest
  /-- A line comment ends before the next line feed, or with the text. -/
  | lineComment {body blanks source result rest : List Char} (one_line : '\n' ∉ body)
      (ended : source = [] ∨ source.head? = some '\n') (are_blanks : AreBlanks blanks)
      (later : Replaces source result rest) :
      Replaces ('/' :: '/' :: body ++ source) (blanks ++ result) rest
  /-- A block comment ends with the first star and slash. -/
  | blockComment {body blanks source result rest : List Char}
      (first : ¬ ['*', '/'] <:+: body ++ ['*']) (are_blanks : AreBlanks blanks)
      (later : Replaces source result rest) :
      Replaces ('/' :: '*' :: body ++ '*' :: '/' :: source) (blanks ++ result) rest

/-- Where comments end, there is a first end. -/
theorem exists_first_end {text : List Char} (closed : ['*', '/'] <:+: text) :
    ∃ body after, text = body ++ '*' :: '/' :: after ∧ ¬ ['*', '/'] <:+: body ++ ['*'] := by
  induction text with
  | nil => simp at closed
  | cons character rest induction =>
      by_cases front : ['*', '/'] <+: character :: rest
      · obtain ⟨after, text_eq⟩ := front
        refine ⟨[], after, text_eq.symm, fun inner => ?_⟩
        have := inner.length_le
        simp at this
      · obtain ⟨body, after, rfl, first⟩ :=
          induction ((List.infix_cons_iff.mp closed).resolve_left front)
        refine ⟨character :: body, after, rfl, fun inner => ?_⟩
        rcases List.infix_cons_iff.mp inner with ⟨others, other_eq⟩ | later
        · obtain ⟨rfl, others_eq⟩ := List.cons.inj other_eq
          have body_eq : body ++ ['*'] = '/' :: others := others_eq.symm
          refine front ⟨others ++ '/' :: after, ?_⟩
          have rest_eq : body ++ '*' :: '/' :: after = (body ++ ['*']) ++ '/' :: after := by simp
          rw [rest_eq, body_eq]
          rfl
        · exact first later

private theorem exists_line_end (text : List Char) :
    ∃ body after, text = body ++ after ∧ '\n' ∉ body ∧ (after = [] ∨ after.head? = some '\n') := by
  induction text with
  | nil => exact ⟨[], [], rfl, by simp, .inl rfl⟩
  | cons character rest induction =>
      by_cases feed : character = '\n'
      · exact ⟨[], character :: rest, rfl, by simp, .inr (congrArg some feed)⟩
      · obtain ⟨body, after, rfl, one_line, ended⟩ := induction
        exact ⟨character :: body, after, rfl, by simp [one_line, Ne.symm feed], ended⟩

/-- The induction is on the length: what follows a string or a comment is shorter. -/
theorem exists_replaces (source : List Char) : ∃ result rest, Replaces source result rest := by
  induction length_eq : source.length using Nat.strongRecOn generalizing source with
  | ind length induction =>
      subst length_eq
      have later (shorter : List Char) (less : shorter.length < source.length) :
          ∃ result rest, Replaces shorter result rest := induction _ less shorter rfl
      cases source with
      | nil => exact ⟨[], [], .stop (.inl rfl)⟩
      | cons character source =>
          by_cases quote : character = '"'
          · subst quote
            by_cases closed : ∃ body after, IsQuoted body ∧ source = body ++ '"' :: after
            · obtain ⟨body, after, quoted, rfl⟩ := closed
              obtain ⟨result, rest, replaces⟩ := later after (by simp; omega)
              exact ⟨_, rest, .string quoted replaces⟩
            · refine ⟨[], _, .stop (.inr (.inl ⟨source, rfl, fun body after quoted eq => ?_⟩))⟩
              exact closed ⟨body, after, quoted, eq⟩
          · by_cases line : character = '/' ∧ source.head? = some '/'
            · obtain ⟨rfl, slash⟩ := line
              obtain ⟨inner, rfl⟩ := List.head?_eq_some_iff.mp slash
              obtain ⟨body, after, rfl, one_line, ended⟩ := exists_line_end inner
              obtain ⟨result, rest, replaces⟩ := later after (by simp; omega)
              exact ⟨_, rest, .lineComment one_line ended areBlanks_space replaces⟩
            · by_cases block : character = '/' ∧ source.head? = some '*'
              · obtain ⟨rfl, star⟩ := block
                obtain ⟨inner, rfl⟩ := List.head?_eq_some_iff.mp star
                by_cases closed : ['*', '/'] <:+: inner
                · obtain ⟨body, after, rfl, first⟩ := exists_first_end closed
                  obtain ⟨result, rest, replaces⟩ := later after (by simp; omega)
                  exact ⟨_, rest, .blockComment first areBlanks_space replaces⟩
                · exact ⟨[], _, .stop (.inr (.inr ⟨inner, rfl, closed⟩))⟩
              · obtain ⟨result, rest, replaces⟩ := later source (by simp)
                refine ⟨_, rest, .character quote (fun slash => ⟨fun other => ?_, fun star => ?_⟩)
                  replaces⟩
                · exact line ⟨slash, other⟩
                · exact block ⟨slash, star⟩

private theorem isBlank_blankFor (character : Char) : isBlank (blankFor character) = true := by
  rw [blankFor]
  split <;> decide

/-- A line comment becomes blanks up to its end. -/
theorem blankFrom_lineComment {body source : List Char} (one_line : '\n' ∉ body)
    (ended : source = [] ∨ source.head? = some '\n') :
    blankFrom .lineComment (body ++ source) =
      body.map (fun _ => ' ') ++ blankFrom .outside source := by
  induction body with
  | nil =>
      rcases ended with rfl | feed
      · rfl
      · obtain ⟨rest, rfl⟩ := List.head?_eq_some_iff.mp feed
        rfl
  | cons character body induction =>
      have not_feed : character ≠ '\n' := fun feed => one_line (by simp [feed])
      rw [List.cons_append, blankFrom, if_neg not_feed,
        induction fun feed => one_line (List.mem_cons_of_mem _ feed)]
      rfl

/-- A star that was read just before. -/
def starBefore (star : Bool) : List Char := if star then ['*'] else []

private theorem not_infix_step {star : Bool} {character : Char} {rest : List Char}
    (none_ended : ¬ ['*', '/'] <:+: starBefore star ++ character :: rest) :
    (star && character == '/') = false ∧
      ¬ ['*', '/'] <:+: starBefore (character == '*') ++ rest := by
  constructor
  · cases star with
    | false => rfl
    | true =>
        by_contra closes
        obtain rfl : character = '/' := by simpa using closes
        exact none_ended ⟨[], rest, rfl⟩
  · intro inner
    have suffix :
        starBefore (character == '*') ++ rest <:+ starBefore star ++ character :: rest := by
      by_cases is_star : character = '*'
      · subst is_star
        exact ⟨starBefore star, rfl⟩
      · refine ⟨starBefore star ++ [character], ?_⟩
        simp [starBefore, is_star]
    exact none_ended (inner.trans suffix.isInfix)

/-- A block comment becomes blanks up to its first end. -/
theorem blankFrom_blockComment {body source : List Char} {star : Bool}
    (first : ¬ ['*', '/'] <:+: starBefore star ++ (body ++ ['*'])) :
    blankFrom (.blockComment star) (body ++ '*' :: '/' :: source) =
      body.map blankFor ++ ' ' :: ' ' :: blankFrom .outside source := by
  induction body generalizing star with
  | nil => simp [blankFrom, blankFor]
  | cons character body induction =>
      obtain ⟨goes_on, first⟩ := not_infix_step first
      rw [List.cons_append, blankFrom, goes_on, if_neg Bool.false_ne_true, induction first]
      rfl

/-- A block comment without an end becomes blanks up to the end of the text. -/
theorem blankFrom_openComment {inner : List Char} {star : Bool}
    (unclosed : ¬ ['*', '/'] <:+: starBefore star ++ inner) :
    blankFrom (.blockComment star) inner = inner.map blankFor := by
  induction inner generalizing star with
  | nil => rfl
  | cons character inner induction =>
      obtain ⟨goes_on, unclosed⟩ := not_infix_step unclosed
      rw [blankFrom, goes_on, if_neg Bool.false_ne_true, induction unclosed]
      rfl

/-- A string without an end is left alone. -/
theorem blankFrom_openString {inner : List Char}
    (unclosed : ∀ body after, IsQuoted body → inner ≠ body ++ '"' :: after) :
    blankFrom .string inner = inner := by
  induction length_eq : inner.length using Nat.strongRecOn generalizing inner with
  | ind length induction =>
      subst length_eq
      cases inner with
      | nil => rfl
      | cons character rest =>
          have not_quote : character ≠ '"' := by
            rintro rfl
            exact unclosed [] rest .nil rfl
          by_cases escape : character = '\\' ∧ rest ≠ []
          · obtain ⟨rfl, rest_ne⟩ := escape
            obtain ⟨escaped, others, rfl⟩ := List.exists_cons_of_ne_nil rest_ne
            have others_unclosed (body after : List Char) (quoted : IsQuoted body) :
                others ≠ body ++ '"' :: after := by
              rintro rfl
              exact unclosed ('\\' :: escaped :: body) after (.escape escaped quoted) rfl
            have shorter : others.length < ('\\' :: escaped :: others).length := by
              simp only [List.length_cons]
              omega
            rw [blankFrom, induction _ shorter others_unclosed rfl]
          · have rest_unclosed (body after : List Char) (quoted : IsQuoted body) :
                rest ≠ body ++ '"' :: after := by
              rintro rfl
              have not_escape : character ≠ '\\' := fun backslash => escape ⟨backslash, by simp⟩
              exact unclosed (character :: body) after (.plain not_quote not_escape quoted) rfl
            rw [blankFrom, induction _ (by simp) rest_unclosed rfl]
            · rintro escaped others rfl rfl
              exact escape ⟨rfl, by simp⟩
            · exact not_quote

private theorem areBlanks_spaces {letters : List Char}
    (letters_blank : ∀ letter ∈ letters, isBlank letter = true) :
    AreBlanks (' ' :: ' ' :: letters) :=
  ⟨by simp, List.forall_mem_cons.mpr ⟨rfl, List.forall_mem_cons.mpr ⟨rfl, letters_blank⟩⟩⟩

namespace Replaces

variable {source result rest : List Char}

/-- With its comments read as blanks, the source is like the result, if the rest is like what comes
after the result. -/
theorem alike (replaces : Replaces source result rest) {last : List Char}
    (rest_alike : Alike (blankFrom .outside rest) last) :
    Alike (blankFrom .outside source) (result ++ last) := by
  induction replaces with
  | stop => exact rest_alike
  | character not_quote not_comment _ induction =>
      rw [blankFrom_outside not_quote not_comment]
      exact .character not_quote (induction rest_alike)
  | @string body source result rest quoted _ induction =>
      have blanked : blankFrom .outside ('"' :: body ++ '"' :: source) =
          '"' :: body ++ '"' :: blankFrom .outside source := by
        rw [List.cons_append, blankFrom, blankFrom_quoted quoted, List.cons_append]
      rw [blanked, List.append_assoc, List.cons_append]
      exact .string quoted (induction rest_alike)
  | @lineComment body blanks source result rest one_line ended are_blanks _ induction =>
      have blanked : blankFrom .outside ('/' :: '/' :: body ++ source) =
          ' ' :: ' ' :: body.map (fun _ => ' ') ++ blankFrom .outside source := by
        rw [List.cons_append, List.cons_append, blankFrom, blankFrom_lineComment one_line ended]
        rfl
      rw [blanked, List.append_assoc]
      refine .blanks (areBlanks_spaces ?_) are_blanks (induction rest_alike)
      simp [isBlank]
  | @blockComment body blanks source result rest first are_blanks _ induction =>
      have blanked : blankFrom .outside ('/' :: '*' :: body ++ '*' :: '/' :: source) =
          ' ' :: ' ' :: (body.map blankFor ++ [' ', ' ']) ++ blankFrom .outside source := by
        rw [List.cons_append, List.cons_append, blankFrom, blankFrom_blockComment first]
        simp
      rw [blanked, List.append_assoc]
      have letters_blank : ∀ letter ∈ body.map blankFor ++ [' ', ' '], isBlank letter = true :=
        List.forall_mem_append.mpr
          ⟨List.forall_mem_map.mpr fun character _ => isBlank_blankFor character, by simp [isBlank]⟩
      exact .blanks (areBlanks_spaces letters_blank) are_blanks (induction rest_alike)

private theorem head?_eq (replaces : Replaces source result rest) :
    (result ++ rest).head? = source.head? ∨
      ∃ blank, (result ++ rest).head? = some blank ∧ isBlank blank = true := by
  have of_blanks {blanks last : List Char} (are_blanks : AreBlanks blanks) :
      ∃ blank, (blanks ++ last).head? = some blank ∧ isBlank blank = true := by
    obtain ⟨blank, others, rfl⟩ := List.exists_cons_of_ne_nil are_blanks.1
    exact ⟨blank, rfl, are_blanks.2 blank List.mem_cons_self⟩
  cases replaces with
  | stop => exact .inl rfl
  | character | string => exact .inl rfl
  | lineComment _ _ are_blanks | blockComment _ are_blanks =>
      rw [List.append_assoc]
      exact .inr (of_blanks are_blanks)

/-- No complete comment is left before the rest. -/
theorem blankFrom_eq (replaces : Replaces source result rest) :
    blankFrom .outside (result ++ rest) = result ++ blankFrom .outside rest := by
  have of_blanks {blanks last : List Char} (are_blanks : AreBlanks blanks) :
      blankFrom .outside (blanks ++ last) = blanks ++ blankFrom .outside last := by
    refine Untouched.plain (fun blank found => ?_) last
    rcases isBlank_cases (are_blanks.2 blank found) with rfl | rfl | rfl | rfl
    all_goals simp
  induction replaces with
  | stop => rfl
  | @character character source result rest not_quote not_comment later induction =>
      have still_none : character = '/' →
          (result ++ rest).head? ≠ some '/' ∧ (result ++ rest).head? ≠ some '*' := by
        intro slash
        rcases later.head?_eq with same | ⟨blank, head_eq, is_blank⟩
        · rw [same]
          exact not_comment slash
        · rw [head_eq]
          constructor
          · rintro ⟨⟩
            simp [isBlank] at is_blank
          · rintro ⟨⟩
            simp [isBlank] at is_blank
      rw [List.cons_append, blankFrom_outside not_quote still_none, induction, List.cons_append]
  | @string body source result rest quoted _ induction =>
      rw [List.append_assoc, List.cons_append, List.cons_append, blankFrom,
        blankFrom_quoted quoted, induction]
      simp
  | lineComment _ _ are_blanks _ induction | blockComment _ are_blanks _ induction =>
      rw [List.append_assoc, of_blanks are_blanks, induction, List.append_assoc]

private theorem ended (replaces : Replaces source result rest) :
    rest = [] ∨ IsOpenString rest ∨ IsOpenComment rest := by
  induction replaces with
  | stop ended => exact ended
  | character _ _ _ ended | string _ _ ended | lineComment _ _ _ _ ended
  | blockComment _ _ _ ended => exact ended

end Replaces

theorem IsOpenString.blankFrom_eq {rest : List Char} (unclosed : IsOpenString rest) :
    blankFrom .outside rest = rest := by
  obtain ⟨inner, rfl, unclosed⟩ := unclosed
  rw [blankFrom, blankFrom_openString unclosed]

private theorem IsOpenComment.blankFrom_ne {rest : List Char} (unclosed : IsOpenComment rest) :
    blankFrom .outside rest ≠ rest := by
  obtain ⟨inner, rfl, -⟩ := unclosed
  simp [blankFrom]

private theorem IsOpenComment.alike {rest blanks : List Char} (unclosed : IsOpenComment rest)
    (are_blanks : AreBlanks blanks) : Alike (blankFrom .outside rest) blanks := by
  obtain ⟨inner, rfl, unclosed⟩ := unclosed
  have none_ended : ¬ ['*', '/'] <:+: starBefore false ++ inner := unclosed
  have blanked : blankFrom .outside ('/' :: '*' :: inner) =
      ' ' :: ' ' :: inner.map blankFor ++ [] := by
    rw [blankFrom, blankFrom_openComment none_ended, List.append_nil]
  rw [blanked, ← List.append_nil blanks]
  refine .blanks (areBlanks_spaces ?_) are_blanks (.same [])
  exact List.forall_mem_map.mpr fun character _ => isBlank_blankFor character

/-- If its comments read as blanks give a text like another one, a source is accepted with comments
exactly if the other text is accepted. -/
theorem checkSource_alike {source : String} {other : List Char}
    (alike : Alike (blankFrom .outside source.toList) other) :
    checkSource ⟨true⟩ source = .ok () ↔ check (String.ofList other) = .ok () := by
  rw [checkSource, if_pos rfl]
  apply check_alike
  rwa [blankOutComments, String.toList_ofList, String.toList_ofList]

/-- With comments a source is accepted exactly if it is accepted with some blanks in place of each
complete comment, unless a comment is never closed.  Such a comment is accepted where blanks are,
though with the comment in it the text is refused. -/
theorem comments_read_as_blanks (source : String) :
    (∃ result rest, Replaces source.toList result rest) ∧
      ∀ result rest, Replaces source.toList result rest →
        (¬ IsOpenComment rest →
          (checkSource ⟨true⟩ source = .ok () ↔ check (String.ofList (result ++ rest)) = .ok ())) ∧
        (IsOpenComment rest →
          check (String.ofList (result ++ rest)) ≠ .ok () ∧
            ∀ blanks, AreBlanks blanks →
              (checkSource ⟨true⟩ source = .ok () ↔
                check (String.ofList (result ++ blanks)) = .ok ())) := by
  refine ⟨exists_replaces source.toList, fun result rest replaces => ⟨fun complete => ?_,
    fun unclosed => ⟨fun accepted => ?_, fun blanks are_blanks => ?_⟩⟩⟩
  · have rest_eq : blankFrom .outside rest = rest := by
      rcases replaces.ended with rfl | unclosed | unclosed
      · rfl
      · exact unclosed.blankFrom_eq
      · exact absurd unclosed complete
    refine checkSource_alike (replaces.alike ?_)
    rw [rest_eq]
    exact .same rest
  · -- an accepted text is left alone, and an open comment is not
    obtain ⟨depth, is_text⟩ := wellFormed_of_check accepted
    have left_alone := is_text.blankFrom_eq
    rw [String.toList_ofList, replaces.blankFrom_eq] at left_alone
    exact unclosed.blankFrom_ne (List.append_cancel_left left_alone)
  · exact checkSource_alike (replaces.alike (unclosed.alike are_blanks))

theorem comments_read_as_blanks_overlapping :
    Replaces "\"//\"/*/*///".toList "\"//\"  ".toList [] ∧
      checkSource ⟨true⟩ "\"//\"/*/*///" = .ok () := by
  have quoted : IsQuoted ['/', '/'] :=
    .plain (by decide) (by decide) (.plain (by decide) (by decide) .nil)
  have line : Replaces ['/', '/'] [' '] [] :=
    .lineComment (List.not_mem_nil) (.inl rfl) areBlanks_space (.stop (.inl rfl))
  have block : Replaces ('/' :: '*' :: ['/'] ++ '*' :: '/' :: ['/', '/']) ([' '] ++ [' ']) [] :=
    .blockComment (by decide) areBlanks_space line
  have replaces : Replaces "\"//\"/*/*///".toList "\"//\"  ".toList [] := .string quoted block
  refine ⟨replaces, (((comments_read_as_blanks _).2 _ _ replaces).1 ?_).mpr ?_⟩
  · rintro ⟨inner, empty, -⟩
    simp at empty
  · exact isOk_of_toOption (by decide +kernel)

/-- A text with a comment that is never closed is accepted. -/
theorem unclosed_comment_accepted :
    Replaces "1/*".toList ['1'] ['/', '*'] ∧ IsOpenComment ['/', '*'] ∧
      checkSource ⟨true⟩ "1/*" = .ok () ∧ check "1/*" ≠ .ok () := by
  have unclosed : IsOpenComment ['/', '*'] := ⟨[], rfl, by decide⟩
  refine ⟨.character (by decide) (by decide) (.stop (.inr (.inr unclosed))), unclosed,
    isOk_of_toOption (by decide +kernel), fun accepted => ?_⟩
  have refused : (check "1/*").toOption = none := by decide +kernel
  simp [accepted, Except.toOption] at refused

end Json
end LintBus
