import LintBus.Proofs.Css.Reading

/-!
# Blanks, comments and semicolons

What is skipped is a row of blanks and closed comments, and such a row is skipped before every text.
A text without the end of a comment keeps having none when something else comes after its front.
-/

namespace LintBus
namespace Css

theorem afterComment?_cons (character : Char) (rest : List Char) :
    afterComment? (character :: rest) =
      if character = '*' ∧ rest.head? = some '/' then some rest.tail else afterComment? rest := by
  cases rest with
  | nil => simp [afterComment?]
  | cons second rest =>
      by_cases closes : character = '*' ∧ second = '/'
      · obtain ⟨rfl, rfl⟩ := closes
        rfl
      · rw [if_neg (by simpa using closes), afterComment?]
        rintro _ rfl eq
        exact closes ⟨rfl, (List.cons.inj eq).1⟩

/-- Where no comment ends in one text, none ends in the other. -/
def Unclosed (text other : List Char) : Prop :=
  afterComment? text = none → afterComment? other = none

namespace Unclosed

variable {text other : List Char}

/-- The same front may come before both texts, unless it ends with a star. -/
theorem append (unclosed : Unclosed text other) (front : List Char)
    (clear : front.getLast? ≠ some '*') : Unclosed (front ++ text) (front ++ other) := by
  induction front with
  | nil => exact unclosed
  | cons character front induction =>
      intro none_eq
      rw [List.cons_append, afterComment?_cons] at none_eq ⊢
      cases front with
      | nil =>
          have not_star : character ≠ '*' := by simpa using clear
          rw [if_neg fun closes => not_star closes.1] at none_eq ⊢
          exact unclosed none_eq
      | cons second front =>
          have rest_clear : (second :: front).getLast? ≠ some '*' := by
            rwa [List.getLast?_cons_cons] at clear
          rw [List.cons_append, List.head?_cons] at none_eq ⊢
          split at none_eq
          · simp at none_eq
          · next not_close =>
              rw [if_neg not_close]
              exact induction rest_clear none_eq

/-- Something may come before the text where no comment ends. -/
theorem prepend (unclosed : Unclosed text other) (front : List Char) :
    Unclosed (front ++ text) other := by
  induction front with
  | nil => exact unclosed
  | cons character front induction =>
      intro none_eq
      rw [List.cons_append, afterComment?_cons] at none_eq
      split at none_eq
      · simp at none_eq
      · exact induction none_eq

end Unclosed

/-- What is left after the end of a comment does not depend on what comes later. -/
theorem afterComment?_append {body rest : List Char} (closed : afterComment? body = some rest)
    (later : List Char) : afterComment? (body ++ later) = some (rest ++ later) := by
  induction body with
  | nil => simp [afterComment?] at closed
  | cons character body induction =>
      rw [List.cons_append, afterComment?_cons]
      rw [afterComment?_cons] at closed
      cases body with
      | nil => simp [afterComment?] at closed
      | cons second body =>
          rw [List.cons_append, List.head?_cons]
          rw [List.head?_cons] at closed
          split at closed
          · next closes =>
              obtain rfl := Option.some.inj closed
              rw [if_pos closes]
              rfl
          · next not_close =>
              rw [if_neg not_close]
              exact induction closed

theorem afterComment?_taken {text rest : List Char} (closed : afterComment? text = some rest) :
    ∃ body, text = body ++ rest ∧ afterComment? body = some [] := by
  induction text with
  | nil => simp [afterComment?] at closed
  | cons character text induction =>
      rw [afterComment?_cons] at closed
      split at closed
      · next closes =>
          obtain ⟨rfl, slash⟩ := closes
          obtain ⟨text, rfl⟩ := List.head?_eq_some_iff.mp slash
          obtain rfl := Option.some.inj closed
          exact ⟨['*', '/'], rfl, rfl⟩
      · next not_close =>
          obtain ⟨body, rfl, body_closed⟩ := induction closed
          refine ⟨character :: body, rfl, ?_⟩
          rw [afterComment?_cons, if_neg]
          · exact body_closed
          · rintro ⟨rfl, slash⟩
            obtain ⟨body, rfl⟩ := List.head?_eq_some_iff.mp slash
            exact not_close ⟨rfl, rfl⟩

private theorem getLast?_of_closed {body : List Char} (closed : afterComment? body = some []) :
    body.getLast? = some '/' := by
  induction body with
  | nil => simp [afterComment?] at closed
  | cons character body induction =>
      rw [afterComment?_cons] at closed
      cases body with
      | nil => simp [afterComment?] at closed
      | cons second body =>
          rw [List.getLast?_cons_cons]
          split at closed
          · next closes =>
              obtain rfl : body = [] := Option.some.inj closed
              simpa using closes.2
          · exact induction closed

/-- A row of blanks and closed comments, and of semicolons if they are allowed. -/
inductive Filler (semicolons : Bool) : List Char → Prop
  | nil : Filler semicolons []
  | blank {character : Char} {rest : List Char} (blank : isBlank character = true)
      (filler : Filler semicolons rest) : Filler semicolons (character :: rest)
  | comment {body rest : List Char} (closed : afterComment? body = some [])
      (filler : Filler semicolons rest) : Filler semicolons ('/' :: '*' :: (body ++ rest))
  | semicolon {rest : List Char} (allowed : semicolons = true)
      (filler : Filler semicolons rest) : Filler semicolons (';' :: rest)

namespace Filler

variable {semicolons : Bool} {filler other : List Char}

theorem append (first : Filler semicolons filler) (second : Filler semicolons other) :
    Filler semicolons (filler ++ other) := by
  induction first with
  | nil => exact second
  | blank is_blank _ induction => exact .blank is_blank induction
  | @comment body rest closed _ induction =>
      rw [List.cons_append, List.cons_append, List.append_assoc]
      exact .comment closed induction
  | semicolon allowed _ induction => exact .semicolon allowed induction

theorem withSemicolons (gap : Filler false filler) : Filler true filler := by
  induction gap with
  | nil => exact .nil
  | blank is_blank _ induction => exact .blank is_blank induction
  | comment closed _ induction => exact .comment closed induction
  | semicolon allowed _ _ => simp at allowed

/-- Blanks and comments are skipped before every text. -/
theorem skipBlank_append (gap : Filler false filler) (text : List Char) :
    skipBlank (filler ++ text) = skipBlank text := by
  induction gap with
  | nil => rfl
  | blank is_blank _ induction => rw [List.cons_append, skipBlank_blank is_blank, induction]
  | @comment body rest closed _ induction =>
      rw [List.cons_append, List.cons_append, List.append_assoc,
        skipBlank_comment (afterComment?_append closed _)]
      exact induction
  | semicolon allowed _ _ => simp at allowed

theorem getLast?_ne (filled : Filler semicolons filler) : filler.getLast? ≠ some '*' := by
  induction filled with
  | nil => simp
  | @blank character rest is_blank _ induction =>
      cases rest with
      | nil =>
          rintro eq
          obtain rfl : character = '*' := by simpa using eq
          simp [isBlank] at is_blank
      | cons second rest => rwa [List.getLast?_cons_cons]
  | @comment body rest closed _ induction =>
      have last_eq : ('/' :: '*' :: (body ++ rest)).getLast? = rest.getLast?.or (some '/') := by
        change (['/', '*'] ++ (body ++ rest)).getLast? = _
        rw [List.getLast?_append, List.getLast?_append, getLast?_of_closed closed]
        cases rest.getLast? with
        | none => rfl
        | some last => rfl
      rw [last_eq]
      cases rest_last : rest.getLast? with
      | none => decide
      | some last => rwa [rest_last] at induction
  | @semicolon rest allowed _ induction =>
      cases rest with
      | nil => simp
      | cons second rest => rwa [List.getLast?_cons_cons]

end Filler

/-- What is skipped is blanks and comments. -/
theorem skipBlank_taken (text : List Char) :
    ∃ filler, text = filler ++ skipBlank text ∧ Filler false filler := by
  fun_induction skipBlank text with
  | case1 rest after closed induction =>
      obtain ⟨filler, after_eq, filled⟩ := induction
      obtain ⟨body, rfl, body_closed⟩ := afterComment?_taken closed
      refine ⟨'/' :: '*' :: (body ++ filler), ?_, .comment body_closed filled⟩
      simp [← after_eq]
  | case2 rest unclosed => exact ⟨[], rfl, .nil⟩
  | case3 character rest _ is_blank induction =>
      obtain ⟨filler, rest_eq, filled⟩ := induction
      exact ⟨character :: filler, by simp [← rest_eq], .blank is_blank filled⟩
  | case4 character rest => exact ⟨[], rfl, .nil⟩
  | case5 => exact ⟨[], rfl, .nil⟩

end Css
end LintBus
