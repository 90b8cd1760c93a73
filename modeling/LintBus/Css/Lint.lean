import LintBus.Css.Grammar
import LintBus.Diagnostic

/-!
# Linting stylesheets

A text that is no stylesheet has one problem, at the furthest place where a rule was tried. A
stylesheet has a warning for each ruleset with nothing in its block, with a fixit that deletes the
ruleset.
-/

namespace LintBus
namespace Css

/-- Words joined for a reader: `a`, `a or b`, `a, b, or c`. -/
def alternatives : List String → String
  | [] => ""
  | [only] => only
  | [first, second] => s!"{first} or {second}"
  | words => ", ".intercalate words.dropLast ++ ", or " ++ words.getLastD ""

/-- The expected rules in the order of the grammar, each once. -/
def Attempts.expected (attempts : Attempts) : List Rule :=
  Rule.all.filter (attempts.rules.contains ·)

/-- What an error says about the rules that were expected. -/
def Attempts.message (attempts : Attempts) : String :=
  match attempts.expected with
  | [] => "unknown parsing error"
  | rules => "expected " ++ alternatives (rules.map Rule.text)

/-- The problem of a text that is no stylesheet. -/
def Attempts.toProblem (attempts : Attempts) (text : List Char) : Problem :=
  ⟨.ofPosition (.ofOffset text attempts.offset), attempts.message⟩

/-- The block of a ruleset holds no declaration, at-rule or ruleset. -/
def Node.isEmptyRuleset (node : Node) : Bool :=
  node.rule == .ruleset &&
    match node.children.find? (·.rule == .block) with
    | none => false
    | some block => block.children.isEmpty

/-- The range of a node. -/
def Node.range (text : List Char) (node : Node) : Range :=
  ⟨0, .ofPosition (.ofOffset text node.start), .ofPosition (.ofOffset text node.stop)⟩

/-- The warning about an empty ruleset. -/
def emptyWarning (text : List Char) (node : Node) : Diagnostic :=
  let range := node.range text
  { severity := .warning
    fixits := [⟨range, ""⟩]
    locations := [range]
    message := "Empty ruleset" }

/-- Lint a stylesheet: its warnings, or its one problem. -/
def lint (source : String) : Except Problem (List Diagnostic) :=
  let text := source.toList
  match parse text with
  | .error attempts => .error (attempts.toProblem text)
  | .ok stylesheet =>
      .ok ((stylesheet.flatten.filter Node.isEmptyRuleset).map (emptyWarning text))

end Css
end LintBus
