import LintBus.Signature.Reader
import Mathlib.Data.List.Basic
import Mathlib.Logic.ExistsUnique

/-!
# Reading and printing signatures

Printing types and reading a signature undo each other.  What is read are well-formed types whose
codes, put in a row, are the text; and the codes of well-formed types are read back as just these
types, whatever follows them.
-/

namespace LintBus

namespace Ty

mutual

/-- Keys of dictionaries are of basic types and structures have fields, at every depth. -/
def isWellFormed : Ty → Bool
  | .array item => item.isWellFormed
  | .dict key value => key.isBasic && value.isWellFormed
  | .struct fields => !fields.isEmpty && areWellFormed fields
  | _ => true

/-- All types of a row are well-formed. -/
def areWellFormed : List Ty → Bool
  | [] => true
  | first :: rest => first.isWellFormed && areWellFormed rest

end

private theorem areWellFormed_iff {types : List Ty} :
    areWellFormed types = true ↔ ∀ ty ∈ types, ty.isWellFormed = true := by
  induction types with
  | nil => simp [areWellFormed]
  | cons first rest induction =>
      rw [areWellFormed, Bool.and_eq_true, induction, List.forall_mem_cons]

private theorem isWellFormed_of_isBasic {ty : Ty} (basic : ty.isBasic = true) :
    ty.isWellFormed = true := by
  cases ty with
  | array item => simp [isBasic] at basic
  | dict key value => simp [isBasic] at basic
  | struct fields => simp [isBasic] at basic
  | _ => rfl

private theorem toList_join_text (types : List Ty) :
    (String.join (types.map text)).toList = codes types := by
  induction types with
  | nil => rfl
  | cons first rest induction =>
      simp [codes, text, induction]

private theorem code_of_ofCode? {letter : Char} {ty : Ty} (found : ofCode? letter = some ty) :
    ty.code = [letter] ∧ ty.isWellFormed = true := by
  unfold ofCode? at found
  split at found
  case h_14 => simp at found
  all_goals
    obtain rfl := Option.some.inj found
    exact ⟨rfl, rfl⟩

private theorem code_head (ty : Ty) :
    ∃ letter others, ty.code = letter :: others ∧ letter ≠ '\x7b' ∧ letter ≠ ')' := by
  cases ty with
  | array item => exact ⟨'a', item.code, rfl, by decide⟩
  | dict key value => exact ⟨'a', _, rfl, by decide⟩
  | struct fields => exact ⟨'(', _, rfl, by decide⟩
  | _ => exact ⟨_, [], rfl, by decide⟩

end Ty

namespace Signature

open Ty

/-- A type is read as a letter, an array, a dictionary or a structure. -/
theorem readTy_cases {steps : Nat} {text : List Char} {ty : Ty} {rest : List Char}
    (read : readTy (steps + 1) text = .ok (ty, rest)) :
    (∃ letter, text = letter :: rest ∧ ofCode? letter = some ty) ∨
    (∃ item after, text = 'a' :: after ∧ readTy steps after = .ok (item, rest) ∧
      ty = .array item) ∨
    (∃ key value after between, text = 'a' :: '\x7b' :: after ∧
      readTy steps after = .ok (key, between) ∧ key.isBasic = true ∧
      readTy steps between = .ok (value, '\x7d' :: rest) ∧ ty = .dict key value) ∨
    ∃ fields after, text = '(' :: after ∧ readFields steps [] after = .ok (fields, rest) ∧
      fields ≠ [] ∧ ty = .struct fields := by
  rw [readTy.eq_def] at read
  split at read
  case h_1 => simp at read
  case h_2 => simp at read
  case h_3 less after less_eq =>
    obtain rfl := Nat.succ.inj less_eq
    split at read
    case h_1 => simp at read
    case h_2 key between key_read =>
      split at read
      case isTrue => simp at read
      case isFalse basic =>
        split at read
        case h_1 => simp at read
        case h_2 value beyond value_read =>
          obtain ⟨rfl, rfl⟩ : Ty.dict key value = ty ∧ beyond = rest := by simpa using read
          exact .inr (.inr (.inl ⟨key, value, after, between, rfl, key_read, not_not.mp basic,
            value_read, rfl⟩))
        case h_3 => simp at read
  case h_4 less after _ less_eq =>
    obtain rfl := Nat.succ.inj less_eq
    split at read
    case h_1 => simp at read
    case h_2 item beyond item_read =>
      obtain ⟨rfl, rfl⟩ : Ty.array item = ty ∧ beyond = rest := by simpa using read
      exact .inr (.inl ⟨item, after, rfl, item_read, rfl⟩)
  case h_5 less after less_eq =>
    obtain rfl := Nat.succ.inj less_eq
    split at read
    case h_1 => simp at read
    case h_2 => simp at read
    case h_3 fields beyond some_field fields_read =>
      obtain ⟨rfl, rfl⟩ : Ty.struct fields = ty ∧ beyond = rest := by simpa using read
      exact .inr (.inr (.inr ⟨fields, after, rfl, fields_read, some_field, rfl⟩))
  case h_6 less letter after _ _ _ less_eq =>
    split at read
    case h_1 found named =>
      obtain ⟨rfl, rfl⟩ : found = ty ∧ after = rest := by simpa using read
      exact .inl ⟨letter, rfl, named⟩
    case h_2 => simp at read

private theorem readFields_cases {steps : Nat} {before : List Ty} {text : List Char}
    {fields : List Ty}
    {rest : List Char} (read : readFields (steps + 1) before text = .ok (fields, rest)) :
    (text = ')' :: rest ∧ fields = before.reverse) ∨
    ∃ field after, readTy steps text = .ok (field, after) ∧
      readFields steps (field :: before) after = .ok (fields, rest) := by
  rw [readFields.eq_def] at read
  split at read
  case h_1 => simp at read
  case h_2 => simp at read
  case h_3 beyond _ =>
    simp only [Except.ok.injEq, Prod.mk.injEq] at read
    obtain ⟨rfl, rfl⟩ := read
    exact .inl ⟨rfl, rfl⟩
  case h_4 less less_eq _ _ =>
    obtain rfl := Nat.succ.inj less_eq
    split at read
    case h_1 => simp at read
    case h_2 field after field_read => exact .inr ⟨field, after, field_read, read⟩

mutual

private theorem code_of_readTy : ∀ {steps : Nat} {text : List Char} {ty : Ty} {rest : List Char},
    readTy steps text = .ok (ty, rest) → text = ty.code ++ rest ∧ ty.isWellFormed = true
  | 0, text, ty, rest, read => by simp [readTy] at read
  | steps + 1, text, ty, rest, read => by
      rcases readTy_cases read with ⟨letter, rfl, found⟩ | ⟨item, after, rfl, item_read, rfl⟩ |
        ⟨key, value, after, between, rfl, key_read, basic, value_read, rfl⟩ |
        ⟨fields, after, rfl, fields_read, some_field, rfl⟩
      · obtain ⟨code_eq, well_formed⟩ := code_of_ofCode? found
        exact ⟨by rw [code_eq, List.singleton_append], well_formed⟩
      · obtain ⟨rfl, well_formed⟩ := code_of_readTy item_read
        exact ⟨rfl, well_formed⟩
      · obtain ⟨rfl, -⟩ := code_of_readTy key_read
        obtain ⟨rfl, well_formed⟩ := code_of_readTy value_read
        simp [code, isWellFormed, basic, well_formed]
      · obtain ⟨more, rfl, rfl, well_formed⟩ := codes_of_readFields fields_read
        simp [code, isWellFormed, well_formed]
        simpa using some_field

private theorem codes_of_readFields : ∀ {steps : Nat} {before : List Ty} {text : List Char}
    {fields : List Ty} {rest : List Char},
    readFields steps before text = .ok (fields, rest) →
      ∃ more, fields = before.reverse ++ more ∧ text = codes more ++ ')' :: rest ∧
        areWellFormed more = true
  | 0, before, text, fields, rest, read => by simp [readFields] at read
  | steps + 1, before, text, fields, rest, read => by
      rcases readFields_cases read with ⟨rfl, rfl⟩ | ⟨field, after, field_read, fields_read⟩
      · exact ⟨[], by simp, rfl, rfl⟩
      · obtain ⟨rfl, well_formed⟩ := code_of_readTy field_read
        obtain ⟨more, rfl, rfl, others⟩ := codes_of_readFields fields_read
        refine ⟨field :: more, by simp, by simp [codes], ?_⟩
        rw [areWellFormed, well_formed, others]
        rfl

end

/-- The types of a signature that is read are well-formed, and their codes are the text. -/
theorem codes_of_readAll {steps : Nat} {before : List Ty} {text : List Char} {types : List Ty}
    (read : readAll steps before text = .ok types) :
    ∃ more, types = before.reverse ++ more ∧ text = codes more ∧ areWellFormed more = true := by
  induction steps generalizing before text with
  | zero =>
      cases text with
      | nil => exact ⟨[], by simpa [readAll, eq_comm] using read, rfl, rfl⟩
      | cons letter rest => simp [readAll] at read
  | succ steps induction =>
      cases text with
      | nil => exact ⟨[], by simpa [readAll, eq_comm] using read, rfl, rfl⟩
      | cons letter rest =>
          rw [readAll] at read
          · split at read
            · simp at read
            · next ty after ty_read =>
                obtain ⟨text_eq, well_formed⟩ := code_of_readTy ty_read
                obtain ⟨more, rfl, rfl, others⟩ := induction read
                refine ⟨ty :: more, by simp, text_eq, ?_⟩
                rw [areWellFormed, well_formed, others]
                rfl
          · simp

private theorem readTy_letter {letter : Char} {ty : Ty} {steps : Nat}
    (found : ofCode? letter = some ty) (enough : 0 < steps) (rest : List Char) :
    readTy steps (letter :: rest) = .ok (ty, rest) := by
  obtain ⟨steps, rfl⟩ := Nat.exists_eq_succ_of_ne_zero (Nat.ne_of_gt enough)
  have plain : letter ≠ 'a' ∧ letter ≠ '(' := by
    constructor
    · rintro rfl
      simp [ofCode?] at found
    · rintro rfl
      simp [ofCode?] at found
  rw [readTy]
  · rw [found]
  · exact fun after same => absurd same plain.1
  · exact plain.1
  · exact plain.2

private theorem readTy_array {text rest : List Char} {item : Ty} {steps : Nat}
    (item_read : readTy steps text = .ok (item, rest)) (plain : text.head? ≠ some '\x7b') :
    readTy (steps + 1) ('a' :: text) = .ok (.array item, rest) := by
  rw [readTy]
  · rw [item_read]
  · rintro after rfl
    exact plain rfl

private theorem readTy_dict {text between rest : List Char} {key value : Ty} {steps : Nat}
    (key_read : readTy steps text = .ok (key, between)) (basic : key.isBasic = true)
    (value_read : readTy steps between = .ok (value, '\x7d' :: rest)) :
    readTy (steps + 1) ('a' :: '\x7b' :: text) = .ok (.dict key value, rest) := by
  simp only [readTy, key_read, basic, not_true_eq_false, if_false, value_read]

private theorem readTy_struct {text rest : List Char} {fields : List Ty} {steps : Nat}
    (fields_read : readFields steps [] text = .ok (fields, rest)) (some_field : fields ≠ []) :
    readTy (steps + 1) ('(' :: text) = .ok (.struct fields, rest) := by
  rw [readTy, fields_read]
  obtain ⟨first, others, rfl⟩ := List.exists_cons_of_ne_nil some_field
  rfl

private theorem readFields_next {text after rest : List Char} {before fields : List Ty} {field : Ty}
    {steps : Nat} (field_read : readTy steps text = .ok (field, after))
    (fields_read : readFields steps (field :: before) after = .ok (fields, rest))
    (begun : text.head? ≠ some ')') (some_text : text ≠ []) :
    readFields (steps + 1) before text = .ok (fields, rest) := by
  rw [readFields]
  · rw [field_read]
    exact fields_read
  · exact some_text
  · rintro after rfl
    exact begun rfl

mutual

/-- The code of a well-formed type is read as this type, whatever follows it. -/
theorem readTy_code : ∀ (ty : Ty) {steps : Nat}, ty.isWellFormed = true →
    ty.code.length ≤ steps → ∀ rest, readTy steps (ty.code ++ rest) = .ok (ty, rest)
  | .array item, 0, _, enough, _ => by simp [code] at enough
  | .array item, steps + 1, well_formed, enough, rest => by
      obtain ⟨letter, others, code_eq, plain, -⟩ := item.code_head
      have item_read := readTy_code item well_formed (Nat.le_of_succ_le_succ enough) rest
      exact readTy_array item_read (by simpa [code_eq] using plain)
  | .dict key value, 0, _, enough, _ => by simp [code] at enough
  | .dict key value, steps + 1, well_formed, enough, rest => by
      rw [isWellFormed, Bool.and_eq_true] at well_formed
      simp only [code, List.length_cons, List.length_append] at enough
      have key_enough : key.code.length ≤ steps := by omega
      have value_enough : value.code.length ≤ steps := by omega
      have key_read := readTy_code key (isWellFormed_of_isBasic well_formed.1) key_enough
        (value.code ++ '\x7d' :: rest)
      have value_read := readTy_code value well_formed.2 value_enough ('\x7d' :: rest)
      simpa [code] using readTy_dict key_read well_formed.1 value_read
  | .struct fields, 0, _, enough, _ => by simp [code] at enough
  | .struct fields, steps + 1, well_formed, enough, rest => by
      rw [isWellFormed, Bool.and_eq_true, Bool.not_eq_true', List.isEmpty_eq_false_iff]
        at well_formed
      simp only [code, List.length_cons, List.length_append, List.length_nil] at enough
      have fields_read := readFields_codes fields well_formed.2 (by omega : _ < steps) [] rest
      simpa [code] using readTy_struct fields_read well_formed.1
  | .boolean, _, _, enough, rest | .byte, _, _, enough, rest | .int16, _, _, enough, rest
  | .uint16, _, _, enough, rest | .int32, _, _, enough, rest | .uint32, _, _, enough, rest
  | .int64, _, _, enough, rest | .uint64, _, _, enough, rest | .double, _, _, enough, rest
  | .string, _, _, enough, rest | .objectPath, _, _, enough, rest
  | .signature, _, _, enough, rest | .variant, _, _, enough, rest =>
      readTy_letter rfl enough rest

private theorem readFields_codes : ∀ (fields : List Ty) {steps : Nat}, areWellFormed fields = true →
    (codes fields).length < steps → ∀ before rest,
      readFields steps before (codes fields ++ ')' :: rest) = .ok (before.reverse ++ fields, rest)
  | [], steps + 1, _, _, before, rest => by simp [readFields, codes]
  | first :: others, steps + 1, well_formed, enough, before, rest => by
      obtain ⟨letter, unread, code_eq, -, begun⟩ := first.code_head
      rw [areWellFormed, Bool.and_eq_true] at well_formed
      simp only [codes, code_eq, List.length_append, List.length_cons] at enough
      have first_enough : first.code.length ≤ steps := by
        rw [code_eq, List.length_cons]
        omega
      have first_read := readTy_code first well_formed.1 first_enough (codes others ++ ')' :: rest)
      have others_read := readFields_codes others well_formed.2 (by omega : _ < steps)
        (first :: before) rest
      rw [List.reverse_cons, List.append_assoc, List.singleton_append] at others_read
      rw [codes, List.append_assoc]
      refine readFields_next first_read others_read ?_ ?_
      · simpa [code_eq] using begun
      · simp [code_eq]

end

private theorem readAll_codes {types : List Ty} (well_formed : areWellFormed types = true)
    {steps : Nat}
    (enough : (codes types).length < steps) (before : List Ty) :
    readAll steps before (codes types) = .ok (before.reverse ++ types) := by
  induction types generalizing steps before with
  | nil => simp [readAll, codes]
  | cons first others induction =>
      obtain ⟨letter, unread, code_eq, -⟩ := first.code_head
      rw [areWellFormed, Bool.and_eq_true] at well_formed
      simp only [codes, code_eq, List.length_append, List.length_cons] at enough
      obtain ⟨steps, rfl⟩ : ∃ less, steps = less + 1 := ⟨steps - 1, by omega⟩
      have first_enough : first.code.length ≤ steps := by
        rw [code_eq, List.length_cons]
        omega
      have first_read := readTy_code first well_formed.1 first_enough (codes others)
      have others_read := induction well_formed.2 (by omega : _ < steps) (first :: before)
      rw [List.reverse_cons, List.append_assoc, List.singleton_append] at others_read
      rw [codes, readAll]
      · rw [first_read]
        exact others_read
      · simp [code_eq]

/-- A text is read as some types exactly if they are well-formed and it is what they are printed
as. -/
theorem readTypes_eq_ok {text : List Char} {types : List Ty} :
    readTypes text = .ok types ↔ areWellFormed types = true ∧ codes types = text := by
  constructor
  · intro read
    obtain ⟨more, rfl, rfl, well_formed⟩ := codes_of_readAll read
    exact ⟨well_formed, rfl⟩
  · rintro ⟨well_formed, rfl⟩
    exact readAll_codes well_formed (by omega) []

/-- Reading a text gives a signature exactly if this has the text and well-formed types whose texts
put in a row are the text again. -/
theorem parse_eq_ok {text : String} {signature : Signature} :
    parse text = .ok signature ↔ signature.text = text ∧
      (∀ ty ∈ signature.types, ty.isWellFormed = true) ∧
      String.join (signature.types.map Ty.text) = text := by
  have joined : String.join (signature.types.map Ty.text) = text ↔
      codes signature.types = text.toList := by
    rw [← String.toList_inj, toList_join_text]
  rw [← areWellFormed_iff, joined, ← readTypes_eq_ok, parse]
  cases signature with
  | mk written types =>
    cases outcome : readTypes text.toList with
    | error flaw => simp
    | ok read => simp [eq_comm]

/-- Reading and printing are inverse.  A text that can be read is what the types of its signature
are printed as, and these are well-formed; well-formed types that are printed are read as just these
types.  So the texts that can be read are those of well-formed types, each of one row of them. -/
theorem parse_inverse :
    (∀ (text : String) (signature : Signature), parse text = .ok signature →
      signature.text = text ∧ String.join (signature.types.map Ty.text) = text ∧
        ∀ ty ∈ signature.types, ty.isWellFormed = true) ∧
    (∀ types : List Ty, (∀ ty ∈ types, ty.isWellFormed = true) →
      let printed := String.join (types.map Ty.text)
      parse printed = .ok ⟨printed, types⟩) ∧
    ∀ text : String, (∃ signature, parse text = .ok signature) ↔
      ∃! types : List Ty, (∀ ty ∈ types, ty.isWellFormed = true) ∧
        String.join (types.map Ty.text) = text := by
  refine ⟨fun text signature read => ?_, fun types well_formed => ?_, fun text => ⟨?_, ?_⟩⟩
  · obtain ⟨text_eq, well_formed, printed⟩ := parse_eq_ok.mp read
    exact ⟨text_eq, printed, well_formed⟩
  · exact parse_eq_ok.mpr ⟨rfl, well_formed, rfl⟩
  · rintro ⟨signature, read⟩
    obtain ⟨-, well_formed, printed⟩ := parse_eq_ok.mp read
    refine ⟨signature.types, ⟨well_formed, printed⟩, ?_⟩
    rintro types ⟨others_wellFormed, others_printed⟩
    have again : parse text = .ok ⟨text, types⟩ :=
      parse_eq_ok.mpr ⟨rfl, others_wellFormed, others_printed⟩
    rw [read, Except.ok.injEq] at again
    rw [again]
  · rintro ⟨types, ⟨well_formed, printed⟩, -⟩
    exact ⟨⟨text, types⟩, parse_eq_ok.mpr ⟨rfl, well_formed, printed⟩⟩

theorem parse_inverse_nested :
    let types := [Ty.array (.dict .objectPath (.struct [.int64, .array .variant])), .signature]
    let text := "aa\x7bo(xav)\x7dg"
    (∀ ty ∈ types, ty.isWellFormed = true) ∧ String.join (types.map Ty.text) = text ∧
      parse text = .ok ⟨text, types⟩ ∧ ∀ signature, parse text = .ok signature →
        ∀ ty ∈ signature.types, ty.isWellFormed = true := by
  intro types text
  have well_formed : ∀ ty ∈ types, ty.isWellFormed = true := areWellFormed_iff.mp rfl
  have printed : String.join (types.map Ty.text) = text := by rfl
  refine ⟨well_formed, printed, ?_, fun signature read => (parse_inverse.1 text signature read).2.2⟩
  have read := parse_inverse.2.1 types well_formed
  dsimp only at read
  rwa [printed] at read

end Signature
end LintBus
