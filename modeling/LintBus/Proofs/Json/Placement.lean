import LintBus.Json.Check
import LintBus.Proofs.Json.Extent
import LintBus.Proofs.Text.Lines
import Mathlib.Data.List.Infix

/-!
# Places of problems

The reader places a flaw by bytes: the line is known by the line feeds among the bytes before it,
and the column by the bytes of that line before it.  A line feed is one byte, which no other
character has among its bytes, so counting bytes finds the lines of the text.  The column of a
problem is the number of characters of its line that start before that byte, and the message of a
problem is the message of the reader without the place at its end.
-/

namespace LintBus
namespace Json

/-- The bytes of a text in UTF-8. -/
def bytesOf (source : String) : List UInt8 := source.toUTF8.data.toList

/-- Line, from one, and bytes of that line, at the end of some bytes of a text. -/
def bytePlace (bytes : List UInt8) : Nat × Nat :=
  (1 + bytes.count 10, (bytes.reverse.takeWhile (· != 10)).length)

private theorem bytesOf_eq (source : String) :
    bytesOf source = source.toList.flatMap String.utf8EncodeChar := by
  rw [bytesOf, String.toUTF8_eq_toByteArray, ← String.utf8Encode_toList, List.utf8Encode]
  simp

private theorem length_flatMap_utf8EncodeChar (text : List Char) :
    (text.flatMap String.utf8EncodeChar).length = byteCount text := by
  induction text with
  | nil => rfl
  | cons character text induction =>
      rw [List.flatMap_cons, List.length_append, String.length_utf8EncodeChar, induction,
        byteCount]

/-- The line feed is the only character with a line feed among its bytes. -/
theorem ne_feed_of_mem_utf8EncodeChar {character : Char} (not_feed : character ≠ '\n')
    {byte : UInt8} (found : byte ∈ String.utf8EncodeChar character) : byte ≠ 10 := by
  have code_ne : character.val.toNat ≠ 10 := fun code_eq =>
    not_feed (Char.ext (UInt32.toNat_inj.mp code_eq))
  have ofNat_ne {code : Nat} (code_ne : code % 256 ≠ 10) : UInt8.ofNat code ≠ 10 := fun same =>
    code_ne (by simpa using congrArg UInt8.toNat same)
  rw [String.utf8EncodeChar] at found
  split at found
  · next one =>
      rw [List.mem_singleton.mp found]
      exact ofNat_ne (by omega)
  · split at found
    · simp only [List.mem_cons, List.not_mem_nil, or_false] at found
      rcases found with rfl | rfl
      all_goals exact ofNat_ne (by omega)
    · split at found
      · simp only [List.mem_cons, List.not_mem_nil, or_false] at found
        rcases found with rfl | rfl | rfl
        all_goals exact ofNat_ne (by omega)
      · simp only [List.mem_cons, List.not_mem_nil, or_false] at found
        rcases found with rfl | rfl | rfl | rfl
        all_goals exact ofNat_ne (by omega)

/-- Line and bytes of the line after one more byte. -/
def nextByte (place : Nat × Nat) (byte : UInt8) : Nat × Nat :=
  if byte = 10 then (place.1 + 1, 0) else (place.1, place.2 + 1)

private theorem foldl_nextByte (bytes : List UInt8) : bytes.foldl nextByte
    (1, 0) = bytePlace bytes := by
  induction bytes using List.reverseRecOn with
  | nil => rfl
  | append_singleton bytes byte induction =>
      rw [List.foldl_append, induction, List.foldl_cons, List.foldl_nil, nextByte, bytePlace,
        bytePlace, List.reverse_concat, List.count_append]
      split
      · next feed =>
          subst feed
          simp [Nat.add_assoc]
      · next not_feed => simp [not_feed]

private theorem foldl_nextByte_of_ne {bytes : List UInt8} (no_feed : ∀ byte ∈ bytes, byte ≠ 10)
    (line column : Nat) :
    bytes.foldl nextByte (line, column) = (line, column + bytes.length) := by
  induction bytes generalizing column with
  | nil => rfl
  | cons byte bytes induction =>
      obtain ⟨not_feed, others⟩ := List.forall_mem_cons.mp no_feed
      rw [List.foldl_cons, nextByte, if_neg not_feed, induction others, List.length_cons,
        Nat.add_assoc, Nat.add_comm 1]

private theorem linePlace_go (text : List Char) (line column offset : Nat) :
    linePlace.go line column text offset =
      ((text.flatMap String.utf8EncodeChar).take offset).foldl nextByte (line, column) := by
  induction text generalizing line column offset with
  | nil => simp [linePlace.go]
  | cons character text induction =>
      rw [linePlace.go, List.flatMap_cons]
      by_cases stop : offset = 0
      · subst stop
        simp
      · rw [if_neg stop]
        split
        · next feed =>
            subst feed
            obtain ⟨offset, rfl⟩ := Nat.exists_eq_succ_of_ne_zero stop
            rw [induction]
            rfl
        · next not_feed =>
            have no_feed : ∀ byte ∈ (String.utf8EncodeChar character).take offset, byte ≠ 10 :=
              fun byte found => ne_feed_of_mem_utf8EncodeChar not_feed (List.mem_of_mem_take found)
            rw [induction, List.take_append, List.foldl_append, foldl_nextByte_of_ne no_feed,
              List.length_take, String.length_utf8EncodeChar, Nat.min_comm]

/-- The reader counts lines and columns by the bytes before the place. -/
theorem linePlace_eq (source : String) (offset : Nat) :
    linePlace source.toList offset = bytePlace ((bytesOf source).take offset) := by
  rw [linePlace, linePlace_go, foldl_nextByte, bytesOf_eq]

/-- The line of a place is a piece of the text, and the place is not behind its end. -/
theorem linePlace_go_line (text : List Char) (line column offset : Nat) :
    ∃ passed piece, (piecesAt '\n' text)[passed]? = some piece ∧
      (linePlace.go line column text offset).1 = line + passed ∧
      (linePlace.go line column text offset).2 ≤
        (if passed = 0 then column else 0) + byteCount piece := by
  have here (text : List Char) (line column : Nat) :
      ∃ passed piece, (piecesAt '\n' text)[passed]? = some piece ∧ line = line + passed ∧
        column ≤ (if passed = 0 then column else 0) + byteCount piece := by
    obtain ⟨piece, others, pieces⟩ := List.exists_cons_of_ne_nil (piecesAt_ne_nil '\n' text)
    exact ⟨0, piece, by rw [pieces]; rfl, rfl, Nat.le_add_right _ _⟩
  induction text generalizing line column offset with
  | nil => exact here [] line column
  | cons character rest induction =>
      rw [linePlace.go]
      split
      · exact here (character :: rest) line column
      · split
        · next feed =>
            obtain ⟨passed, piece, found, line_eq, column_le⟩ := induction (line + 1) 0 (offset - 1)
            rw [ite_self] at column_le
            refine ⟨passed + 1, piece, ?_, ?_, column_le⟩
            · rw [piecesAt, if_pos feed]
              exact found
            · rw [line_eq]
              omega
        · next not_feed =>
            obtain ⟨passed, piece, found, line_eq, column_le⟩ := induction line
              (column + min character.utf8Size offset) (offset - character.utf8Size)
            obtain ⟨first, others, pieces, pieces_cons⟩ := exists_piecesAt_cons not_feed rest
            rw [pieces] at found
            cases passed with
            | zero =>
                obtain rfl := Option.some.inj found
                refine ⟨0, character :: first, by rw [pieces_cons]; rfl, line_eq, ?_⟩
                rw [if_pos rfl] at column_le ⊢
                rw [byteCount]
                omega
            | succ passed =>
                exact ⟨passed + 1, piece, by rw [pieces_cons]; exact found, line_eq, column_le⟩

private theorem linePlace_line (text : List Char) (offset : Nat) :
    ∃ piece, (piecesAt '\n' text)[(linePlace text offset).1 - 1]? = some piece ∧
      (linePlace text offset).2 ≤ byteCount piece := by
  obtain ⟨passed, piece, found, line_eq, column_le⟩ := linePlace_go_line text 1 0 offset
  rw [ite_self, Nat.zero_add] at column_le
  refine ⟨piece, ?_, column_le⟩
  rw [linePlace, line_eq, Nat.add_sub_cancel_left, found]

/-- Number of characters of a line that start before a byte of it. -/
def startsBefore (line : List Char) (byteColumn : Nat) : Nat :=
  (List.range line.length).countP fun index => byteCount (line.take index) < byteColumn

theorem charactersBefore_eq (line : List Char) (byteColumn : Nat) :
    charactersBefore line byteColumn = startsBefore line byteColumn := by
  induction line generalizing byteColumn with
  | nil => rfl
  | cons character line induction =>
      rw [charactersBefore, startsBefore, List.length_cons, List.range_succ_eq_map,
        List.countP_cons, List.countP_map, induction, startsBefore]
      split
      · next zero =>
          subst zero
          simp
      · next positive =>
          have shifted (index : Nat) :
              byteCount ((character :: line).take (index + 1)) < byteColumn ↔
                byteCount (line.take index) < byteColumn - character.utf8Size := by
            rw [List.take_succ_cons, byteCount]
            omega
          simp only [shifted, Function.comp_def, Nat.succ_eq_add_one, List.take_zero, byteCount]
          rw [if_pos (by simpa using Nat.pos_of_ne_zero positive), Nat.add_comm]

theorem startsBefore_le (line : List Char) (byteColumn : Nat) :
    startsBefore line byteColumn ≤ line.length :=
  List.countP_le_length.trans_eq List.length_range

section BeforeLast

variable {α : Type} [DecidableEq α] {words : List α}

private theorem beforeLast?_eq_none {text : List α} (absent : ¬ words <:+: text) :
    beforeLast? words text = none := by
  induction text with
  | nil =>
      have some_word : words ≠ [] := fun empty => absent (empty ▸ List.infix_rfl)
      rw [beforeLast?, if_neg some_word]
  | cons unit rest induction =>
      rw [List.infix_cons_iff, not_or] at absent
      rw [beforeLast?, induction absent.2]
      simp only
      rw [if_neg (mt List.isPrefixOf_iff_prefix.mp absent.1)]

private theorem beforeLast?_append {unit : α} {others after : List α}
    (last : ¬ unit :: others <:+: others ++ after) (before : List α) :
    beforeLast? (unit :: others) (before ++ unit :: (others ++ after)) = some before := by
  induction before with
  | nil =>
      have begins : (unit :: others).isPrefixOf (unit :: (others ++ after)) = true :=
        List.isPrefixOf_iff_prefix.mpr ⟨after, rfl⟩
      rw [List.nil_append, beforeLast?, beforeLast?_eq_none last]
      simp only
      rw [if_pos begins]
  | cons first before induction =>
      rw [List.cons_append, beforeLast?, induction]

end BeforeLast

private theorem notMem_toString {letter : Char} (not_digit : letter.isDigit = false)
    (number : Nat) :
    letter ∉ (toString number).toList := by
  intro found
  rw [Nat.toString_eq_repr, Nat.toList_repr] at found
  have digit := Nat.isDigit_of_mem_toDigits (by decide) (by decide) found
  simp [not_digit] at digit

private theorem place_words_last {line column : List Char} (line_digits : 't' ∉ line)
    (column_digits : 't' ∉ column) :
    ¬ ' ' :: "at line ".toList <:+:
      "at line ".toList ++ (line ++ (" column ".toList ++ column)) := by
  intro again
  have later : ' ' :: "at line ".toList <:+: " line ".toList ++
      (line ++ (" column ".toList ++ column)) := by
    rcases List.infix_cons_iff.mp again with ⟨_, front⟩ | again
    · exact absurd (List.cons.inj front).1 (by decide)
    · rcases List.infix_cons_iff.mp again with ⟨_, front⟩ | again
      · exact absurd (List.cons.inj front).1 (by decide)
      · exact again
  have found : 't' ∈ ' ' :: "at line ".toList := by decide
  have letter := later.subset found
  simp only [List.mem_append, line_digits, column_digits, or_false, false_or] at letter
  revert letter
  decide

/-- Whatever a message says, also about lines, only the place after it is taken off. -/
theorem withoutPlace_append_place (message : String) (line column : Nat) :
    withoutPlace (message ++ " at line " ++ toString line ++ " column " ++ toString column) =
      message := by
  have text_eq : (message ++ " at line " ++ toString line ++ " column " ++
      toString column).toList = message.toList ++ ' ' :: ("at line ".toList ++
        ((toString line).toList ++ (" column ".toList ++ (toString column).toList))) := by
    simp
  have line_digits : 't' ∉ (toString line).toList := notMem_toString (by decide) line
  have column_digits : 't' ∉ (toString column).toList := notMem_toString (by decide) column
  have last := place_words_last line_digits column_digits
  have mark : " at line ".toList = ' ' :: "at line ".toList := rfl
  rw [withoutPlace, text_eq, mark, beforeLast?_append last]
  exact String.ofList_toList

private theorem located_eq (error : ReadError) (source : String) :
    error.located source = error.flaw.message ++ " at line " ++
      toString (linePlace source.toList error.offset).1 ++ " column " ++
      toString (linePlace source.toList error.offset).2 := by
  rfl

/-- At any byte offset, the column of a problem counts the characters of its line that start before
that byte, and the line is one of the text. -/
theorem characterColumn_linePlace (text : List Char) (offset : Nat) :
    ∃ piece, (piecesAt '\n' text)[(linePlace text offset).1 - 1]? = some piece ∧
      (linePlace text offset).2 ≤ byteCount piece ∧
      characterColumn text (linePlace text offset).1 (linePlace text offset).2 =
        startsBefore piece (linePlace text offset).2 := by
  obtain ⟨piece, found, byteColumn_le⟩ := linePlace_line text offset
  refine ⟨piece, found, byteColumn_le, ?_⟩
  simp only [characterColumn, found, charactersBefore_eq]

/-- The problem of a refused text is in the line where the reader noticed the flaw, and its column
counts the characters that start before that place. -/
theorem problem_of_refused {source : String} {problem : Problem}
    (refused : check source = .error problem) :
    ∃ (error : ReadError) (text : List Char),
      read source = .error error ∧
      (piecesAt '\n' source.toList)[(linePlace source.toList error.offset).1 - 1]? = some text ∧
      (linePlace source.toList error.offset).2 ≤ byteCount text ∧
      problem = ⟨.ofPosition ⟨(linePlace source.toList error.offset).1,
        startsBefore text (linePlace source.toList error.offset).2⟩, error.flaw.message⟩ := by
  rw [check] at refused
  split at refused
  · simp at refused
  · next error read_error =>
      obtain rfl := Except.error.inj refused
      obtain ⟨text, found, byteColumn_le, column_eq⟩ :=
        characterColumn_linePlace source.toList error.offset
      refine ⟨error, text, read_error, found, byteColumn_le, ?_⟩
      simp only [ReadError.toProblem, column_eq, located_eq, withoutPlace_append_place]

/-- Whatever the message of a reader, it is left when the place at the end is taken off, and at
whatever byte the reader stops, its line and byte column are those of a byte of a line of the text,
whose column is the number of characters of the line that start before it.  A refused text has one
problem.  The reader notices it at a byte of the text or at its end; its line is one more than the
number of line feeds among the bytes before, and its column is the number of bytes of that line
before it.  The problem has this line, which is one of the text; its column is the number of
characters of the line that start before the byte, so it is never more than the number of characters
of the line; and its message is what the reader says without the place at the end. -/
theorem check_places_problem :
    (∀ (message : String) (line column : Nat),
      withoutPlace (message ++ " at line " ++ toString line ++ " column " ++ toString column) =
        message) ∧
    (∀ (source : String) (offset : Nat),
      let line := 1 + ((bytesOf source).take offset).count 10
      let byteColumn := (((bytesOf source).take offset).reverse.takeWhile (· != 10)).length
      ∃ text, (piecesAt '\n' source.toList)[line - 1]? = some text ∧ byteColumn ≤ byteCount text ∧
        characterColumn source.toList line byteColumn = startsBefore text byteColumn ∧
        startsBefore text byteColumn ≤ text.length) ∧
    ∀ (source : String) (problem : Problem), check source = .error problem →
      ∃ (error : ReadError) (line byteColumn : Nat) (text : List Char),
        read source = .error error ∧
        error.offset ≤ (bytesOf source).length ∧
        line = 1 + ((bytesOf source).take error.offset).count 10 ∧
        byteColumn = (((bytesOf source).take error.offset).reverse.takeWhile (· != 10)).length ∧
        (piecesAt '\n' source.toList)[line - 1]? = some text ∧
        byteColumn ≤ byteCount text ∧
        problem.location = .ofPosition ⟨line, startsBefore text byteColumn⟩ ∧
        startsBefore text byteColumn ≤ text.length ∧
        error.located source =
          problem.message ++ " at line " ++ toString line ++ " column " ++ toString byteColumn := by
  refine ⟨withoutPlace_append_place, fun source offset => ?_, fun source problem refused => ?_⟩
  · obtain ⟨text, found, byteColumn_le, column_eq⟩ :=
      characterColumn_linePlace source.toList offset
    rw [linePlace_eq] at found byteColumn_le column_eq
    exact ⟨text, found, byteColumn_le, column_eq, startsBefore_le _ _⟩
  · obtain ⟨error, text, read_error, found, byteColumn_le, rfl⟩ := problem_of_refused refused
    refine ⟨error, _, _, text, read_error, ?_, ?_, ?_, found, byteColumn_le, rfl,
      startsBefore_le _ _, located_eq error source⟩
    · rw [bytesOf_eq, length_flatMap_utf8EncodeChar]
      exact offset_le_of_read read_error
    · rw [linePlace_eq, bytePlace]
    · rw [linePlace_eq, bytePlace]

/-- The line has three characters of two bytes before the bracket, which is its twelfth character
and ends with its fifteenth byte. -/
theorem check_places_problem_wide :
    ∃ problem, check "[\n  \"ééé\", 1,]" = .error problem ∧
      problem.location = ⟨2, 12⟩ ∧ problem.message = "trailing comma" ∧
      ∃ (error : ReadError) (line byteColumn : Nat) (text : List Char),
        read "[\n  \"ééé\", 1,]" = .error error ∧
        error.offset ≤ (bytesOf "[\n  \"ééé\", 1,]").length ∧
        problem.location = .ofPosition ⟨line, startsBefore text byteColumn⟩ ∧
        error.located "[\n  \"ééé\", 1,]" = problem.message ++ " at line " ++ toString line ++
          " column " ++ toString byteColumn := by
  have placed :
      (match check "[\n  \"ééé\", 1,]" with
      | .ok () => none
      | .error problem => some (problem.location, problem.message.toList)) =
        some (⟨2, 12⟩, "trailing comma".toList) := by
    decide +kernel
  cases refused : check "[\n  \"ééé\", 1,]" with
  | ok => simp [refused] at placed
  | error problem =>
      simp only [refused, Option.some.injEq, Prod.mk.injEq] at placed
      have location_eq : problem.location = ⟨2, 12⟩ := placed.1
      have message_eq : problem.message = "trailing comma" := String.toList_inj.mp placed.2
      obtain ⟨error, line, byteColumn, text, read_error, within, -, -, -, -, placed_eq, -,
        located⟩ := check_places_problem.2.2 _ _ refused
      exact ⟨problem, rfl, location_eq, message_eq, error, line, byteColumn, text, read_error,
        within, placed_eq, located⟩

end Json
end LintBus
