import LintBus.Proofs.Css.Filler

/-!
# Texts that part at a mark

Two texts are the same up to a brace or a semicolon and go on in different ways after it.  Whatever
is read of the one without reading the mark is read of the other as well, if only a comment that is
not closed in the one is not closed in the other.
-/

namespace LintBus
namespace Css

open Pattern

/-- Two ways in which a text may go on after a mark. -/
structure Fork where
  mark : Char
  tail : List Char
  other : List Char
  marks : mark = '\x7b' ∨ mark = '\x7d' ∨ mark = ';'
  unclosed : Unclosed tail other

namespace Fork

variable {fork : Fork} {text text' rest : List Char}

/-- The texts are the same up to the mark. -/
def Parts (fork : Fork) (text text' : List Char) : Prop :=
  ∃ common, text = common ++ fork.mark :: fork.tail ∧ text' = common ++ fork.mark :: fork.other

/-- The mark is still to come. -/
def Ahead (fork : Fork) (rest : List Char) : Prop := fork.tail.length < rest.length

theorem mark_ne (fork : Fork) {character : Char}
    (other : character ≠ '\x7b' ∧ character ≠ '\x7d' ∧ character ≠ ';') :
    fork.mark ≠ character := by
  rcases fork.marks with eq | eq | eq
  · exact eq ▸ other.1.symm
  · exact eq ▸ other.2.1.symm
  · exact eq ▸ other.2.2.symm

theorem parts_mark (fork : Fork) : fork.Parts (fork.mark :: fork.tail) (fork.mark :: fork.other) :=
  ⟨[], rfl, rfl⟩

namespace Parts

theorem ahead (parts : fork.Parts text text') : fork.Ahead text := by
  obtain ⟨common, rfl, -⟩ := parts
  simp only [Ahead, List.length_append, List.length_cons]
  omega

private theorem cases_head (parts : fork.Parts text text') :
    (text = fork.mark :: fork.tail ∧ text' = fork.mark :: fork.other) ∨
      ∃ character rest rest', text = character :: rest ∧ text' = character :: rest' ∧
        fork.Parts rest rest' := by
  obtain ⟨common, rfl, rfl⟩ := parts
  cases common with
  | nil => exact .inl ⟨rfl, rfl⟩
  | cons character common => exact .inr ⟨character, _, _, rfl, rfl, common, rfl, rfl⟩

theorem head?_eq (parts : fork.Parts text text') : text.head? = text'.head? := by
  rcases parts.cases_head with ⟨rfl, rfl⟩ | ⟨head, rest, rest', rfl, rfl, -⟩
  · rfl
  · rfl

/-- After a character before the mark the texts still part at the mark. -/
theorem tail {character : Char} (parts : fork.Parts (character :: rest) text')
    (ahead : fork.Ahead rest) : ∃ rest', text' = character :: rest' ∧ fork.Parts rest rest' := by
  rcases parts.cases_head with ⟨text_eq, -⟩ | ⟨head, rest, rest', text_eq, rfl, rest_parts⟩
  · obtain ⟨-, rfl⟩ := List.cons.inj text_eq
    exact absurd ahead (Nat.lt_irrefl _)
  · obtain ⟨rfl, rfl⟩ := List.cons.inj text_eq
    exact ⟨rest', rfl, rest_parts⟩

end Parts

theorem Ahead.of_le {longer : List Char} (ahead : fork.Ahead rest)
    (le : rest.length ≤ longer.length) : fork.Ahead longer :=
  Nat.lt_of_lt_of_le ahead le

/-- A comment that is not closed in one text is not closed in the other. -/
theorem Parts.unclosed (parts : fork.Parts text text') : Unclosed text text' := by
  obtain ⟨common, rfl, rfl⟩ := parts
  have not_star : fork.mark ≠ '*' := fork.mark_ne (by decide)
  have unclosed := fork.unclosed.append (common ++ [fork.mark])
    (by simpa [List.getLast?_concat] using not_star)
  simpa using unclosed

/-- A comment that is closed before the mark is closed in both texts. -/
theorem Parts.afterComment?_some (parts : fork.Parts text text')
    (closed : afterComment? text = some rest) (ahead : fork.Ahead rest) :
    ∃ rest', afterComment? text' = some rest' ∧ fork.Parts rest rest' := by
  induction text generalizing text' with
  | nil => simp [afterComment?] at closed
  | cons character text induction =>
      rcases parts.cases_head with ⟨text_eq, rfl⟩ | ⟨head, _, text', text_eq, rfl, text_parts⟩
      · have not_star : fork.mark ≠ '*' := fork.mark_ne (by decide)
        rw [text_eq, afterComment?_cons, if_neg fun closes => not_star closes.1] at closed
        have shorter := length_afterComment? closed
        exact absurd (ahead.of_le shorter) (Nat.lt_irrefl _)
      · obtain ⟨rfl, rfl⟩ := List.cons.inj text_eq
        rw [afterComment?_cons] at closed
        rw [afterComment?_cons, ← text_parts.head?_eq]
        split at closed
        · next closes =>
            obtain ⟨second, rest, rfl⟩ := List.exists_cons_of_ne_nil (l := text) (by
              rintro rfl
              simp at closes)
            obtain rfl := Option.some.inj closed
            obtain ⟨rest', rfl, rest_parts⟩ := text_parts.tail ahead
            exact ⟨rest', by rw [if_pos closes]; rfl, rest_parts⟩
        · next not_close =>
            rw [if_neg not_close]
            exact induction text_parts closed

/-- Blanks and comments before the mark are the same in both texts. -/
theorem Parts.skipBlank (parts : fork.Parts text text') (ahead : fork.Ahead (skipBlank text)) :
    fork.Parts (skipBlank text) (skipBlank text') := by
  fun_induction Css.skipBlank text generalizing text' with
  | case1 rest after closed induction =>
      have after_ahead := ahead.of_le (length_skipBlank_le after)
      have rest_ahead := after_ahead.of_le (length_afterComment? closed)
      obtain ⟨text', rfl, star_parts⟩ := parts.tail (rest_ahead.of_le (by simp))
      obtain ⟨rest', rfl, rest_parts⟩ := star_parts.tail rest_ahead
      obtain ⟨after', closed', after_parts⟩ := rest_parts.afterComment?_some closed after_ahead
      rw [skipBlank_comment closed']
      exact induction after_parts ahead
  | case2 rest unclosed =>
      rcases parts.cases_head with ⟨text_eq, -⟩ | ⟨_, _, text', text_eq, rfl, star_parts⟩
      · exact absurd (List.cons.inj text_eq).1.symm (fork.mark_ne (by decide))
      · obtain ⟨rfl, rfl⟩ := List.cons.inj text_eq
        rcases star_parts.cases_head with ⟨star_eq, -⟩ | ⟨_, _, rest', star_eq, rfl, rest_parts⟩
        · exact absurd (List.cons.inj star_eq).1.symm (fork.mark_ne (by decide))
        · obtain ⟨rfl, rfl⟩ := List.cons.inj star_eq
          rw [skipBlank_unclosed (rest_parts.unclosed unclosed)]
          exact parts
  | case3 character rest not_comment blank induction =>
      have rest_ahead := ahead.of_le (length_skipBlank_le rest)
      obtain ⟨rest', rfl, rest_parts⟩ := parts.tail rest_ahead
      rw [skipBlank_blank blank]
      exact induction rest_parts ahead
  | case4 character rest not_comment not_blank =>
      rw [Bool.not_eq_true] at not_blank
      rcases parts.cases_head with ⟨text_eq, rfl⟩ | ⟨_, _, rest', text_eq, rfl, rest_parts⟩
      · obtain ⟨rfl, rfl⟩ := List.cons.inj text_eq
        rw [skipBlank_of_notBlank not_blank fun slash =>
          absurd slash (fork.mark_ne (by decide))]
        exact parts
      · obtain ⟨rfl, rfl⟩ := List.cons.inj text_eq
        rw [skipBlank_of_notBlank not_blank]
        · exact parts
        · rintro slash star
          obtain ⟨star_rest, rest_eq⟩ := List.head?_eq_some_iff.mp (rest_parts.head?_eq.trans star)
          exact not_comment star_rest slash rest_eq
  | case5 => exact absurd parts.ahead (Nat.not_lt_zero _)

/-- A pattern that matches one text without reading the mark matches the other one, and what is left
of the texts parts at the mark. -/
def Carries (fork : Fork) (inToken : Bool) (pattern : Pattern) : Prop :=
  ∀ {text text' rest}, fork.Parts text text' → scan inToken pattern text = some rest →
    fork.Ahead rest → ∃ rest', scan inToken pattern text' = some rest' ∧ fork.Parts rest rest'

/-- A part of a token reads the same of both texts or matches neither, unless it reads the mark. -/
structure Settles (fork : Fork) (pattern : Pattern) : Prop where
  carries : fork.Carries true pattern
  fails : ∀ {text text'}, fork.Parts text text' → scan true pattern text = none →
    scan true pattern text' = none

/-- A part of a token reads the same of both texts or matches neither, and it never reads the
mark. -/
structure Halts (fork : Fork) (pattern : Pattern) : Prop extends fork.Settles pattern where
  stops : ∀ {text text' rest}, fork.Parts text text' → scan true pattern text = some rest →
    fork.Ahead rest

section Tokens

variable {first second pattern : Pattern}

theorem halts_char {kind : Char → Bool}
    (scan_eq : ∀ text, scan true pattern text = afterChar? kind text)
    (differs : kind fork.mark = false) : fork.Halts pattern := by
  have cases_char {text text' : List Char} (parts : fork.Parts text text') :
      (scan true pattern text = none ∧ scan true pattern text' = none) ∨
        ∃ rest rest', scan true pattern text = some rest ∧ scan true pattern text' = some rest' ∧
          fork.Parts rest rest' := by
    rw [scan_eq, scan_eq]
    rcases parts.cases_head with ⟨rfl, rfl⟩ | ⟨character, rest, rest', rfl, rfl, rest_parts⟩
    · exact .inl (by simp [afterChar?, differs])
    · by_cases of_kind : kind character = true
      · exact .inr ⟨rest, rest', by simp [afterChar?, of_kind], by simp [afterChar?, of_kind],
          rest_parts⟩
      · exact .inl (by simp [afterChar?, of_kind])
  refine ⟨⟨fun parts scanned ahead => ?_, fun parts missed => ?_⟩, fun parts scanned => ?_⟩
  · rcases cases_char parts with ⟨missed, -⟩ | ⟨rest, rest', eq, eq', rest_parts⟩
    · simp [missed] at scanned
    · obtain rfl := Option.some.inj (eq.symm.trans scanned)
      exact ⟨rest', eq', rest_parts⟩
  · rcases cases_char parts with ⟨-, missed'⟩ | ⟨rest, rest', eq, -, -⟩
    · exact missed'
    · simp [eq] at missed
  · rcases cases_char parts with ⟨missed, -⟩ | ⟨rest, rest', eq, -, rest_parts⟩
    · simp [missed] at scanned
    · obtain rfl := Option.some.inj (eq.symm.trans scanned)
      exact rest_parts.ahead

theorem settles_any : fork.Settles (.one .any) := by
  refine ⟨fun parts scanned ahead => ?_, fun parts missed => ?_⟩
  · rw [scan_set] at scanned
    rcases parts.cases_head with ⟨rfl, rfl⟩ | ⟨character, rest, rest', rfl, rfl, rest_parts⟩
    · obtain rfl := Option.some.inj scanned
      exact absurd ahead (Nat.lt_irrefl _)
    · obtain rfl := Option.some.inj scanned
      exact ⟨rest', scan_set _ _, rest_parts⟩
  · rw [scan_set] at missed
    rcases parts.cases_head with ⟨rfl, rfl⟩ | ⟨character, rest, rest', rfl, rfl, rest_parts⟩
    · simp [afterChar?, CharSet.contains] at missed
    · simp [afterChar?, CharSet.contains] at missed

theorem length_of_scan {inToken : Bool} (scanned : scan inToken pattern text = some rest) :
    rest.length ≤ text.length := by
  obtain ⟨taken, rfl, -⟩ := scan_suffix scanned
  simp

theorem carries_seq (bounded : (first.seq second).isBounded = true)
    (first_carries : fork.Carries true first) (second_carries : fork.Carries true second) :
    fork.Carries true (first.seq second) := by
  intro text text' rest parts scanned ahead
  rw [scan_seq bounded, Option.bind_eq_some_iff] at scanned
  obtain ⟨between, first_scanned, second_scanned⟩ := scanned
  obtain ⟨between', first_scanned', between_parts⟩ :=
    first_carries parts first_scanned (ahead.of_le (length_of_scan second_scanned))
  obtain ⟨rest', second_scanned', rest_parts⟩ :=
    second_carries between_parts second_scanned ahead
  exact ⟨rest', by rw [scan_seq bounded, first_scanned']; exact second_scanned', rest_parts⟩

/-- A sequence settles if its first part does not read the mark or its second part always
matches. -/
theorem settles_seq (bounded : (first.seq second).isBounded = true)
    (first_settles : fork.Settles first) (second_settles : fork.Settles second)
    (either : fork.Halts first ∨ ∀ text, (scan true second text).isSome = true) :
    fork.Settles (first.seq second) := by
  refine ⟨carries_seq bounded first_settles.carries second_settles.carries, ?_⟩
  intro text text' parts missed
  rw [scan_seq bounded] at missed ⊢
  cases first_scanned : scan true first text with
  | none => rw [first_settles.fails parts first_scanned, Option.bind_none]
  | some between =>
      rw [first_scanned, Option.bind_some] at missed
      rcases either with halts | total
      · obtain ⟨between', first_scanned', between_parts⟩ :=
          first_settles.carries parts first_scanned (halts.stops parts first_scanned)
        rw [first_scanned', Option.bind_some]
        exact second_settles.fails between_parts missed
      · have matched := total between
        rw [if_pos rfl] at missed
        rw [missed] at matched
        simp at matched

private theorem carries_alt (bounded : (first.alt second).isBounded = true)
    (first_settles : fork.Settles first) (second_carries : fork.Carries true second) :
    fork.Carries true (first.alt second) := by
  intro text text' rest parts scanned ahead
  rw [scan_alt bounded] at scanned ⊢
  rcases Option.or_eq_some_iff.mp scanned with first_scanned | ⟨missed, second_scanned⟩
  · obtain ⟨rest', first_scanned', rest_parts⟩ :=
      first_settles.carries parts first_scanned ahead
    exact ⟨rest', by rw [first_scanned', Option.some_or], rest_parts⟩
  · rw [first_settles.fails parts missed, Option.none_or]
    exact second_carries parts second_scanned ahead

theorem settles_alt (bounded : (first.alt second).isBounded = true)
    (first_settles : fork.Settles first) (second_settles : fork.Settles second) :
    fork.Settles (first.alt second) := by
  refine ⟨carries_alt bounded first_settles second_settles.carries, fun parts missed => ?_⟩
  rw [scan_alt bounded, Option.or_eq_none_iff] at missed ⊢
  exact ⟨first_settles.fails parts missed.1, second_settles.fails parts missed.2⟩

theorem settles_optional (bounded : pattern.optional.isBounded = true)
    (settles : fork.Settles pattern) : fork.Settles pattern.optional := by
  refine ⟨fun {text text' rest} parts scanned ahead => ?_, fun parts missed => ?_⟩
  · rw [scan_optional bounded, Option.some.injEq] at scanned
    rw [scan_optional bounded]
    cases inner : scan true pattern text with
    | none =>
        obtain rfl : text = rest := by simpa [inner] using scanned
        exact ⟨text', by rw [settles.fails parts inner]; rfl, parts⟩
    | some after =>
        obtain rfl : after = rest := by simpa [inner] using scanned
        obtain ⟨rest', inner', rest_parts⟩ := settles.carries parts inner ahead
        exact ⟨rest', by rw [inner']; rfl, rest_parts⟩
  · rw [scan_optional bounded] at missed
    simp at missed

private theorem settles_more (bounded : pattern.many.isBounded = true)
    (settles : fork.Settles pattern) :
    fork.Settles pattern.more := by
  refine ⟨fun {text text' rest} parts scanned ahead => ?_, fun {text text'} parts missed => ?_⟩
  · induction length_eq : text.length using Nat.strongRecOn generalizing text text' with
    | ind length induction =>
        rw [scan_more bounded, if_pos rfl] at scanned ⊢
        cases once : scan true pattern text with
        | none =>
            obtain rfl : text = rest := by simpa [once] using scanned
            exact ⟨text', by rw [settles.fails parts once], parts⟩
        | some after =>
            simp only [once] at scanned
            obtain ⟨after', once', after_parts⟩ :=
              settles.carries parts once (ahead.of_le (length_of_scan scanned))
            simp only [once']
            have shorter := length_of_repeated bounded once
            exact induction after.length (length_eq ▸ shorter) after_parts scanned rfl
  · have matched : (scan true pattern.more text).isSome = true := scan_more_isSome bounded text
    rw [missed] at matched
    simp at matched

theorem settles_many (bounded : pattern.many.isBounded = true) (settles : fork.Settles pattern) :
    fork.Settles pattern.many := by
  refine ⟨fun {text text' rest} parts scanned ahead => ?_, fun {text text'} parts missed => ?_⟩
  · rw [scan_many bounded] at scanned ⊢
    cases once : scan true pattern text with
    | none =>
        obtain rfl : text = rest := by simpa [once] using scanned
        exact ⟨text', by rw [settles.fails parts once], parts⟩
    | some after =>
        simp only [once] at scanned
        obtain ⟨after', once', after_parts⟩ :=
          settles.carries parts once (ahead.of_le (length_of_scan scanned))
        simp only [once']
        exact (settles_more bounded settles).carries after_parts scanned ahead
  · have matched : (scan true pattern.many text).isSome = true := scan_many_isSome bounded text
    rw [missed] at matched
    simp at matched

theorem halts_absent (bounded : pattern.absent.isBounded = true)
    (halts : fork.Halts pattern) : fork.Halts pattern.absent := by
  have scanned_eq {text rest : List Char} (scanned : scan true pattern.absent text = some rest) :
      text = rest := by
    rw [scan_absent bounded] at scanned
    split at scanned
    · exact Option.some.inj scanned
    · simp at scanned
  have isNone_eq {text text' : List Char} (parts : fork.Parts text text') :
      (scan true pattern text).isNone = (scan true pattern text').isNone := by
    cases inner : scan true pattern text with
    | none => rw [halts.fails parts inner]
    | some after =>
        obtain ⟨after', inner', -⟩ := halts.carries parts inner (halts.stops parts inner)
        rw [inner']
        rfl
  refine ⟨⟨fun {text text' rest} parts scanned ahead => ?_, fun {text text'} parts missed => ?_⟩,
    fun parts scanned => scanned_eq scanned ▸ parts.ahead⟩
  · obtain rfl := scanned_eq scanned
    refine ⟨text', ?_, parts⟩
    rw [scan_absent bounded] at scanned ⊢
    rw [← isNone_eq parts]
    split at scanned
    · next missed => rw [if_pos missed]
    · simp at scanned
  · rw [scan_absent bounded] at missed ⊢
    rw [← isNone_eq parts]
    split at missed
    · simp at missed
    · next matched => rw [if_neg matched]

theorem halts_seq (bounded : (first.seq second).isBounded = true) (first_halts : fork.Halts first)
    (second_halts : fork.Halts second) : fork.Halts (first.seq second) := by
  refine ⟨settles_seq bounded first_halts.toSettles second_halts.toSettles (.inl first_halts), ?_⟩
  intro text text' rest parts scanned
  rw [scan_seq bounded, Option.bind_eq_some_iff] at scanned
  obtain ⟨between, first_scanned, second_scanned⟩ := scanned
  obtain ⟨between', -, between_parts⟩ :=
    first_halts.carries parts first_scanned (first_halts.stops parts first_scanned)
  exact second_halts.stops between_parts second_scanned

theorem halts_alt (bounded : (first.alt second).isBounded = true) (first_halts : fork.Halts first)
    (second_halts : fork.Halts second) : fork.Halts (first.alt second) := by
  refine ⟨settles_alt bounded first_halts.toSettles second_halts.toSettles, ?_⟩
  intro text text' rest parts scanned
  rw [scan_alt bounded] at scanned
  rcases Option.or_eq_some_iff.mp scanned with first_scanned | ⟨-, second_scanned⟩
  · exact first_halts.stops parts first_scanned
  · exact second_halts.stops parts second_scanned

theorem halts_optional (bounded : pattern.optional.isBounded = true)
    (halts : fork.Halts pattern) : fork.Halts pattern.optional := by
  refine ⟨settles_optional bounded halts.toSettles, fun {text text' rest} parts scanned => ?_⟩
  rw [scan_optional bounded, Option.some.injEq] at scanned
  cases inner : scan true pattern text with
  | none =>
      obtain rfl : text = rest := by simpa [inner] using scanned
      exact parts.ahead
  | some after =>
      obtain rfl : after = rest := by simpa [inner] using scanned
      exact halts.stops parts inner

private theorem halts_more (bounded : pattern.many.isBounded = true) (halts : fork.Halts pattern) :
    fork.Halts pattern.more := by
  refine ⟨settles_more bounded halts.toSettles, fun {text text' rest} parts scanned => ?_⟩
  induction length_eq : text.length using Nat.strongRecOn generalizing text text' with
  | ind length induction =>
      rw [scan_more bounded, if_pos rfl] at scanned
      cases once : scan true pattern text with
      | none =>
          obtain rfl : text = rest := by simpa [once] using scanned
          exact parts.ahead
      | some after =>
          simp only [once] at scanned
          obtain ⟨after', -, after_parts⟩ := halts.carries parts once (halts.stops parts once)
          have shorter := length_of_repeated bounded once
          exact induction after.length (length_eq ▸ shorter) after_parts scanned rfl

theorem halts_many (bounded : pattern.many.isBounded = true) (halts : fork.Halts pattern) :
    fork.Halts pattern.many := by
  refine ⟨settles_many bounded halts.toSettles, fun {text text' rest} parts scanned => ?_⟩
  rw [scan_many bounded] at scanned
  cases once : scan true pattern text with
  | none =>
      obtain rfl : text = rest := by simpa [once] using scanned
      exact parts.ahead
  | some after =>
      simp only [once] at scanned
      obtain ⟨after', -, after_parts⟩ := halts.carries parts once (halts.stops parts once)
      exact (halts_more bounded halts).stops after_parts scanned

end Tokens

end Fork
end Css
end LintBus
