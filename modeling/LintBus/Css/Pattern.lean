import LintBus.Text.Alphabetic

/-!
# Patterns of a stylesheet grammar

Patterns are parsing expressions: alternatives are tried in order and the first that matches
counts. Between the parts of a sequence and between repetitions, blanks and comments are skipped,
unless a token is being read. Named rules leave nodes in the parse tree, and a failed rule is
remembered when it was tried further on than any other, so that an error can say what was expected
there.
-/

namespace LintBus
namespace Css

/-- The named rules of the grammar. -/
inductive Rule where
  | endOfInput
  | stylesheet
  | atRule
  | atKeyword
  | prelude
  | ruleset
  | selector
  | block
  | declaration
  | property
  | value
  | parenGroup
  | bracketGroup
  | number
  | hash
  | identifier
  | string
  | delimiter
deriving DecidableEq, Repr

namespace Rule

/-- All rules in the order in which errors list them. -/
def all : List Rule :=
  [.endOfInput, .stylesheet, .atRule, .atKeyword, .prelude, .ruleset, .selector, .block,
    .declaration, .property, .value, .parenGroup, .bracketGroup, .number, .hash, .identifier,
    .string, .delimiter]

/-- What an error calls a rule. -/
def text : Rule → String
  | .endOfInput => "end of input"
  | .stylesheet => "stylesheet"
  | .atRule => "at-rule"
  | .atKeyword => "at_keyword"
  | .prelude => "prelude"
  | .ruleset => "ruleset"
  | .selector => "selector"
  | .block => "`\x7b`"
  | .declaration => "declaration"
  | .property => "property name"
  | .value => "value"
  | .parenGroup => "paren_group"
  | .bracketGroup => "bracket_group"
  | .number => "number"
  | .hash => "hash"
  | .identifier => "identifier"
  | .string => "string"
  | .delimiter => "delim"

end Rule

/-- Sets of characters that the grammar names. -/
inductive CharSet where
  | any
  | digit
  | alphabetic
deriving DecidableEq, Repr

/-- Membership in a set of characters. -/
def CharSet.contains : CharSet → Char → Bool
  | .any, _ => true
  | .digit, character => character.isDigit
  | .alphabetic, character => CharClass.isAlphabetic character

/-- Parsing expressions. -/
inductive Pattern where
  /-- Exactly these characters. -/
  | text (letters : List Char)
  /-- One character of a set. -/
  | one (set : CharSet)
  /-- The end of the text. -/
  | finish
  /-- Both, one after the other. -/
  | seq (first second : Pattern)
  /-- The first, or else the second. -/
  | alt (first second : Pattern)
  /-- The pattern or nothing. -/
  | optional (pattern : Pattern)
  /-- The pattern as often as it matches. -/
  | many (pattern : Pattern)
  /-- Further repetitions after one that matched. -/
  | more (pattern : Pattern)
  /-- Nothing, where the pattern does not match; it names no rule. -/
  | absent (pattern : Pattern)
  /-- Nothing, where the pattern matches; it names no rule. -/
  | ahead (pattern : Pattern)
  /-- A named rule. -/
  | rule (name : Rule)
deriving DecidableEq, Repr

namespace Pattern

/-- Exactly the characters of a text. -/
def literal (letters : String) : Pattern := .text letters.toList

/-- Some patterns in a row. -/
def inOrder : List Pattern → Pattern
  | [] => .text []
  | [pattern] => pattern
  | pattern :: rest => .seq pattern (inOrder rest)

/-- The first of some patterns that matches. -/
def firstOf : List Pattern → Pattern
  | [] => .absent (.text [])
  | [pattern] => pattern
  | pattern :: rest => .alt pattern (firstOf rest)

/-- The pattern once or more often. -/
def oneOrMore (pattern : Pattern) : Pattern := .seq pattern (.many pattern)

end Pattern

/-- A node of the parse tree: a rule and the stretch of text that it matched. -/
inductive Node where
  | node (rule : Rule) (start stop : Nat) (children : List Node)
deriving Repr

namespace Node

/-- The rule of a node. -/
def rule : Node → Rule
  | .node rule _ _ _ => rule

/-- Number of characters before the node. -/
def start : Node → Nat
  | .node _ start _ _ => start

/-- Number of characters up to the end of the node. -/
def stop : Node → Nat
  | .node _ _ stop _ => stop

/-- The nodes directly below. -/
def children : Node → List Node
  | .node _ _ _ children => children

mutual

/-- A node and all nodes below it, outer ones before inner ones. -/
def flatten : Node → List Node
  | .node rule start stop children => .node rule start stop children :: flattenAll children

/-- Some nodes and all nodes below them. -/
def flattenAll : List Node → List Node
  | [] => []
  | first :: rest => flatten first ++ flattenAll rest

end

end Node

/-- A place in the text and the nodes read so far on this level, the last one first. -/
structure Progress where
  /-- What is left of the text. -/
  rest : List Char
  /-- Number of characters read. -/
  offset : Nat
  /-- Nodes read on this level. -/
  nodes : List Node

/-- The rules that failed at the furthest place where one was tried. -/
structure Attempts where
  /-- The furthest place. -/
  offset : Nat
  /-- The rules tried there, in the order of their failures. -/
  rules : List Rule
deriving DecidableEq, Repr

namespace Attempts

/-- Nothing has been tried. -/
def empty : Attempts := ⟨0, []⟩

/-- Number of rules remembered for a place. -/
def countAt (attempts : Attempts) (offset : Nat) : Nat :=
  if attempts.offset = offset then attempts.rules.length else 0

/-- Remember that `rule` failed at `offset`, where `before` rules were remembered when it was
tried. Rules that it tried there itself give way to it, unless it was a single one. -/
def failed (attempts : Attempts) (rule : Rule) (offset before : Nat) : Attempts :=
  if attempts.countAt offset = before + 1 then attempts
  else if offset < attempts.offset then attempts
  else if offset = attempts.offset then ⟨offset, attempts.rules.take before ++ [rule]⟩
  else ⟨offset, [rule]⟩

end Attempts

/-! ## Blanks and comments -/

/-- Drop a comment after its opening: what is left and how many characters were read, if it is
closed. -/
def closeComment : List Char → Nat → Option (List Char × Nat)
  | '*' :: '/' :: rest, count => some (rest, count + 2)
  | _ :: rest, count => closeComment rest (count + 1)
  | [], _ => none

theorem closeComment_length {text rest : List Char} {count total : Nat}
    (closed : closeComment text count = some (rest, total)) : rest.length ≤ text.length := by
  fun_induction closeComment text count with
  | case1 tail count =>
      simp only [Option.some.injEq, Prod.mk.injEq] at closed
      simp only [← closed.1, List.length_cons]
      omega
  | case2 head tail count notClose induction =>
      have := induction closed
      simp only [List.length_cons]
      omega
  | case3 count => simp at closed

/-- Drop blanks and complete comments; also count the characters dropped. -/
def dropBlank (text : List Char) (count : Nat) : List Char × Nat :=
  match text with
  | '/' :: '*' :: rest =>
      match _closed : closeComment rest (count + 2) with
      | some (rest, count) => dropBlank rest count
      | none => (text, count)
  | character :: rest =>
      if character = ' ' ∨ character = '\t' ∨ character = '\r' ∨ character = '\n' then
        dropBlank rest (count + 1)
      else (text, count)
  | [] => ([], count)
termination_by text.length
decreasing_by
  · have := closeComment_length _closed
    simp only [List.length_cons]
    omega
  · simp

/-- Drop a given text from the front. -/
def dropText? : List Char → List Char → Option (List Char)
  | [], text => some text
  | _ :: _, [] => none
  | letter :: letters, character :: text =>
      if letter = character then dropText? letters text else none

namespace Progress

/-- Skip blanks and comments. -/
def skip (progress : Progress) : Progress :=
  let (rest, offset) := dropBlank progress.rest progress.offset
  { progress with rest := rest, offset := offset }

/-- Skip blanks and comments, unless a token is being read. -/
def skipUnless (progress : Progress) (inToken : Bool) : Progress :=
  if inToken then progress else progress.skip

end Progress

end Css
end LintBus
