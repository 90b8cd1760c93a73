import LintBus.Backend.Json
import LintBus.Proofs.Json.Grammar

/-!
# Texts without comments

Slashes stand in strings only where a text is well-formed, and what looks like a comment inside a
string is none.  So there is nothing to replace in a text that is accepted without comments.
-/

namespace LintBus
namespace Json

/-- A character outside of strings that begins neither a string nor a comment is left alone. -/
theorem blankFrom_outside {character : Char} {rest : List Char} (not_quote : character ≠ '"')
    (not_comment : character = '/' → rest.head? ≠ some '/' ∧ rest.head? ≠ some '*') :
    blankFrom .outside (character :: rest) = character :: blankFrom .outside rest := by
  rw [blankFrom]
  · exact not_quote
  · rintro _ rfl rfl
    exact (not_comment rfl).1 rfl
  · rintro _ rfl rfl
    exact (not_comment rfl).2 rfl

theorem blankFrom_quoted {body : List Char} (quoted : IsQuoted body) (rest : List Char) :
    blankFrom .string (body ++ '"' :: rest) = body ++ '"' :: blankFrom .outside rest := by
  induction quoted with
  | nil => rfl
  | plain not_quote not_escape _ induction =>
      rw [List.cons_append, blankFrom, induction, List.cons_append]
      · rintro _ _ rfl
        exact absurd rfl not_escape
      · exact not_quote
  | escape character _ induction =>
      rw [List.cons_append, List.cons_append, blankFrom, induction, List.cons_append,
        List.cons_append]

/-- The letters are left alone where neither a string nor a comment surrounds them. -/
def Untouched (letters : List Char) : Prop :=
  ∀ rest, blankFrom .outside (letters ++ rest) = letters ++ blankFrom .outside rest

namespace Untouched

private theorem append {letters others : List Char} (one : Untouched letters)
    (other : Untouched others) :
    Untouched (letters ++ others) := by
  intro rest
  rw [List.append_assoc, one, other, List.append_assoc]

theorem plain {letters : List Char}
    (neither : ∀ character ∈ letters, character ≠ '"' ∧ character ≠ '/') : Untouched letters := by
  intro rest
  induction letters with
  | nil => rfl
  | cons character letters induction =>
      obtain ⟨⟨not_quote, not_slash⟩, others⟩ := List.forall_mem_cons.mp neither
      rw [List.cons_append, blankFrom_outside not_quote fun slash => absurd slash not_slash,
        induction others, List.cons_append]

private theorem string {body : List Char} (quoted : IsQuoted body) :
    Untouched ('"' :: body ++ ['"']) := by
  intro rest
  rw [List.append_assoc, List.cons_append, blankFrom, List.singleton_append,
    blankFrom_quoted quoted, List.append_assoc, List.singleton_append, List.cons_append]

end Untouched

/-- What stands between the one text and the other is left alone. -/
def Spared (text after : List Char) : Prop :=
  ∃ letters, text = letters ++ after ∧ Untouched letters

namespace Spared

variable {text between after : List Char}

private theorem trans (one : Spared text between) (other : Spared between after) :
    Spared text after := by
  obtain ⟨letters, rfl, untouched⟩ := one
  obtain ⟨others, rfl, others_untouched⟩ := other
  exact ⟨letters ++ others, (List.append_assoc _ _ _).symm, untouched.append others_untouched⟩

private theorem plain {letters : List Char}
    (neither : ∀ character ∈ letters, character ≠ '"' ∧ character ≠ '/') (after : List Char) :
    Spared (letters ++ after) after := ⟨letters, rfl, .plain neither⟩

private theorem character {character : Char} (not_quote : character ≠ '"')
    (not_slash : character ≠ '/')
    (after : List Char) : Spared (character :: after) after :=
  plain (List.forall_mem_singleton.mpr ⟨not_quote, not_slash⟩) after

private theorem string {body : List Char} (is_string : IsString body) (after : List Char) :
    Spared ('"' :: body ++ '"' :: after) after :=
  ⟨'"' :: body ++ ['"'], by simp, .string is_string.isQuoted⟩

end Spared

private theorem spared_of_blank {character : Char} (is_blank : isBlank character = true)
    (after : List Char) : Spared (character :: after) after := by
  rcases isBlank_cases is_blank with rfl | rfl | rfl | rfl
  all_goals exact .character (by decide) (by decide) after

/-- What is derived is left alone.  The induction is on the derivation. -/
theorem Derives.spared {tokens : Tokens} {form : Form} {depth : Nat} {text after : List Char}
    (derives : Derives tokens form depth text after) : Spared text after := by
  induction derives with
  | blank is_blank _ spared => exact (spared_of_blank is_blank _).trans spared
  | symbol punctuation _ after =>
      rcases isPunctuation_cases punctuation with rfl | rfl | rfl | rfl
      all_goals exact .character (by decide) (by decide) after
  | word known _ after =>
      refine .plain (fun letter found => ?_) after
      obtain ⟨not_quote, not_slash, -⟩ := letters_of_word known found
      exact ⟨not_quote, not_slash⟩
  | number number _ after =>
      refine .plain (fun character found => ?_) after
      have of_number := (tokens.isNumeral number).isNumberChar character found
      exact ⟨ne_of_isNumberChar of_number _ (by decide), ne_of_isNumberChar of_number _ (by decide)⟩
  | string string _ after => exact .string (tokens.isString string) after
  | empty brackets _ spared | filled brackets _ spared =>
      cases brackets with
      | square | curly => exact (Spared.character (by decide) (by decide) _).trans spared
  | entry key _ _ colon_spared value_spared =>
      exact ((Spared.string (tokens.isString key) _).trans colon_spared).trans value_spared
  | last _ _ part_spared closed_spared => exact part_spared.trans closed_spared
  | next _ _ _ part_spared comma_spared row_spared =>
      exact (part_spared.trans comma_spared).trans row_spared

theorem IsText.blankFrom_eq {tokens : Tokens} {depth : Nat} {text : List Char}
    (is_text : IsText tokens depth text) : blankFrom .outside text = text := by
  obtain ⟨blanks, derives, all_blank⟩ := is_text
  have blanks_spared : Spared blanks [] := by
    clear derives
    induction blanks with
    | nil => exact ⟨[], rfl, fun _ => rfl⟩
    | cons blank blanks induction =>
        obtain ⟨is_blank, others⟩ := List.forall_mem_cons.mp all_blank
        exact (spared_of_blank is_blank blanks).trans (induction others)
  obtain ⟨letters, text_eq, untouched⟩ := derives.spared.trans blanks_spared
  rw [text_eq, untouched, blankFrom]

private theorem Derives.standard {form : Form} {depth : Nat} {text after : List Char}
    (derives : Derives .readable form depth text after) :
    Derives .standard form depth text after := by
  induction derives with
  | blank is_blank _ standard => exact .blank is_blank standard
  | symbol punctuation => exact .symbol punctuation _ _
  | word known => exact .word known _ _
  | number number => exact .number (Tokens.readable.isNumeral number) _ _
  | string string => exact .string (Tokens.readable.isString string) _ _
  | empty brackets _ standard => exact .empty brackets standard
  | filled brackets _ standard => exact .filled brackets standard
  | entry key _ _ colon_standard value_standard =>
      exact .entry (Tokens.readable.isString key) colon_standard value_standard
  | last _ _ part_standard closed_standard => exact .last part_standard closed_standard
  | next _ _ _ part_standard comma_standard row_standard =>
      exact .next part_standard comma_standard row_standard

/-- What is accepted is well-formed. -/
theorem wellFormed_of_check {source : String} (accepted : check source = .ok ()) :
    WellFormed source.toList := by
  obtain ⟨blanks, derives, all_blank⟩ := check_eq_ok.mp accepted
  exact ⟨_, blanks, derives.standard, all_blank⟩

private theorem blankOutComments_of_wellFormed {source : String}
    (formed : WellFormed source.toList) :
    blankOutComments source = source := by
  obtain ⟨depth, is_text⟩ := formed
  rw [blankOutComments, is_text.blankFrom_eq, String.ofList_toList]

theorem isOk_of_toOption {result : Except Problem Unit} (some_unit : result.toOption = some ()) :
    result = .ok () := by
  cases result with
  | error problem => simp [Except.toOption] at some_unit
  | ok _ => rfl

/-- For a text that is accepted without comments the option makes no difference: nothing in it is
replaced, and a document that holds it has no problem, whatever the options of the call say. -/
theorem accepted_without_comments {ω : Type} (fileText : ω → FilePath → Except FileError String)
    {source : String} (accepted : check source = .ok ()) :
    WellFormed source.toList ∧ blankOutComments source = source ∧
      ∀ world document options chosen, fileText world document.contents = .ok source →
        CheckOptions.decode options = .ok chosen →
          parseDocument fileText world document options = ⟨document.diagnostics, .done ()⟩ := by
  have formed := wellFormed_of_check accepted
  have blanked := blankOutComments_of_wellFormed formed
  refine ⟨formed, blanked, fun world document options chosen contents_eq decoded => ?_⟩
  have checked : checkSource chosen source = .ok () := by
    rw [checkSource, blanked, ite_self, accepted]
  simp only [parseDocument, decoded, contents_eq, checked]

theorem accepted_without_comments_quoted :
    ∃ source, source = "[\"/*\\\"//\\\\\", \x7b\"*/\\/\": \"\\u002f*\"\x7d]" ∧
      blankOutComments source = source ∧
      ∀ document, parseDocument (fun _ _ => .ok source) () document
        [("allowComments", .boolean true)] = ⟨document.diagnostics, .done ()⟩ := by
  have accepted : check "[\"/*\\\"//\\\\\", \x7b\"*/\\/\": \"\\u002f*\"\x7d]" = .ok () :=
    isOk_of_toOption (by decide +kernel)
  obtain ⟨-, blanked, parsed⟩ := accepted_without_comments
    (fun (_ : Unit) _ => .ok "[\"/*\\\"//\\\\\", \x7b\"*/\\/\": \"\\u002f*\"\x7d]") accepted
  exact ⟨_, rfl, blanked, fun document =>
    parsed () document [("allowComments", .boolean true)] ⟨true⟩ rfl rfl⟩

end Json
end LintBus
