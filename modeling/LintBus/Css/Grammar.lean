import LintBus.Css.Pattern

/-!
# The stylesheet grammar

Only the block structure is validated: selectors, preludes and values are runs of tokens and
groups. Tokens are read without skipping blanks inside them.
-/

namespace LintBus
namespace Css

open Pattern

/-- A backslash and any character after it. -/
def escaped : Pattern := .seq (literal "\\") (.one .any)

/-- A character that an identifier goes on with. -/
def identifierChar : Pattern :=
  firstOf [literal "-", literal "_", escaped, .one .alphabetic, .one .digit]

/-- An identifier, whose first character is no digit. -/
def word : Pattern :=
  .seq (firstOf [literal "-", literal "_", escaped, .one .alphabetic]) (.many identifierChar)

/-- A string between two of the given quotes, on one line, with escapes. -/
def quoted (quote : String) : Pattern :=
  let plain :=
    .seq (.absent (firstOf [literal quote, literal "\\", literal "\n"])) (.one .any)
  inOrder [literal quote, .many (.alt escaped plain), literal quote]

/-- Digits with an optional fraction, or a fraction alone. -/
def decimalDigits : Pattern :=
  .alt
    (.seq (oneOrMore (.one .digit)) (.optional (.seq (literal ".") (oneOrMore (.one .digit)))))
    (.seq (literal ".") (oneOrMore (.one .digit)))

/-- A token or a group. -/
def piece : Pattern :=
  firstOf
    [.rule .string, .rule .parenGroup, .rule .bracketGroup, .rule .number, .rule .hash,
      .rule .identifier, .rule .delimiter]

/-- What may stand between the braces of a block. -/
def blockPart : Pattern :=
  firstOf [.rule .declaration, .rule .atRule, .rule .ruleset, literal ";"]

/-- The characters that stand for themselves. -/
def delimiters : List String :=
  [":", ",", ">", "+", "~", "*", ".", "/", "!", "=", "%", "&", "|", "^", "$", "-"]

namespace Rule

/-- The rule reads a token: nothing is skipped inside it. -/
def isToken : Rule → Bool
  | .atKeyword | .property | .number | .hash | .identifier | .string => true
  | _ => false

/-- What a rule stands for. -/
def pattern : Rule → Pattern
  | .endOfInput => .finish
  | .stylesheet =>
      inOrder [.text [], .many (.alt (.rule .atRule) (.rule .ruleset)), .rule .endOfInput]
  | .atRule =>
      inOrder
        [literal "@", .rule .atKeyword, .rule .prelude, .alt (.rule .block) (literal ";")]
  | .atKeyword => .rule .identifier
  | .prelude => .many piece
  | .ruleset => .seq (.rule .selector) (.rule .block)
  | .selector => oneOrMore piece
  | .block => inOrder [literal "\x7b", .many blockPart, literal "\x7d"]
  | .declaration =>
      inOrder
        [.rule .property, literal ":", .rule .value,
          .alt (literal ";") (.ahead (literal "\x7d"))]
  | .property => .rule .identifier
  | .value => oneOrMore piece
  | .parenGroup =>
      inOrder [literal "(", .many (.alt piece (literal ";")), literal ")"]
  | .bracketGroup => inOrder [literal "[", .many piece, literal "]"]
  | .number =>
      inOrder
        [.optional (.alt (literal "+") (literal "-")), decimalDigits,
          .optional (.alt (literal "%") (.rule .identifier))]
  | .hash => .seq (literal "#") (oneOrMore identifierChar)
  | .identifier => word
  | .string => .alt (quoted "\"") (quoted "'")
  | .delimiter => firstOf (delimiters.map literal)

end Rule

/-- Match a pattern at a place. Inside a token nothing is skipped and no rule is remembered.
The result is the place after the match, if there is one, and the attempts so far. -/
def matchPattern : Nat → Bool → Pattern → Progress → Attempts → Option Progress × Attempts
  | 0, _, _, _, attempts => (none, attempts)
  | steps + 1, inToken, pattern, progress, attempts =>
      match pattern with
      | .text letters =>
          match dropText? letters progress.rest with
          | none => (none, attempts)
          | some rest =>
              (some
                { progress with rest := rest, offset := progress.offset + letters.length },
                attempts)
      | .one set =>
          match progress.rest with
          | [] => (none, attempts)
          | character :: rest =>
              if set.contains character then
                (some { progress with rest := rest, offset := progress.offset + 1 },
                  attempts)
              else (none, attempts)
      | .finish => (if progress.rest.isEmpty then some progress else none, attempts)
      | .seq first second =>
          match matchPattern steps inToken first progress attempts with
          | (none, attempts) => (none, attempts)
          | (some progress, attempts) =>
              matchPattern steps inToken second (progress.skipUnless inToken) attempts
      | .alt first second =>
          match matchPattern steps inToken first progress attempts with
          | (none, attempts) => matchPattern steps inToken second progress attempts
          | matched => matched
      | .optional pattern =>
          match matchPattern steps inToken pattern progress attempts with
          | (none, attempts) => (some progress, attempts)
          | matched => matched
      | .many pattern =>
          match matchPattern steps inToken pattern progress attempts with
          | (none, attempts) => (some progress, attempts)
          | (some progress, attempts) =>
              matchPattern steps inToken (.more pattern) progress attempts
      | .more pattern =>
          match
            matchPattern steps inToken pattern (progress.skipUnless inToken) attempts
          with
          | (none, attempts) => (some progress, attempts)
          | (some progress, attempts) =>
              matchPattern steps inToken (.more pattern) progress attempts
      | .absent pattern =>
          match matchPattern steps inToken pattern progress attempts with
          | (none, attempts) => (some progress, attempts)
          | (some _, attempts) => (none, attempts)
      | .ahead pattern =>
          match matchPattern steps inToken pattern progress attempts with
          | (none, attempts) => (none, attempts)
          | (some _, attempts) => (some progress, attempts)
      | .rule name =>
          if inToken then matchPattern steps true name.pattern progress attempts
          else
            let opened := { progress with nodes := [] }
            match matchPattern steps name.isToken name.pattern opened attempts with
            | (none, failures) =>
                (none, failures.failed name progress.offset (attempts.countAt progress.offset))
            | (some closed, attempts) =>
                let node :=
                  .node name progress.offset closed.offset closed.nodes.reverse
                (some { closed with nodes := node :: progress.nodes }, attempts)

/-- Enough steps for a text: a bounded number for each character. -/
def stepsFor (text : List Char) : Nat := 64 * (text.length + 2)

/-- The parse tree of a stylesheet, or the rules expected at the furthest place. -/
def parse (text : List Char) : Except Attempts Node :=
  match
    matchPattern (stepsFor text) false (.rule .stylesheet) ⟨text, 0, []⟩ .empty
  with
  | (some ⟨_, _, node :: _⟩, _) => .ok node
  | (_, attempts) => .error attempts

end Css
end LintBus
