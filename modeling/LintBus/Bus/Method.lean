import LintBus.Bus.Interface

/-!
# Methods

The methods of each interface with the signatures of their arguments, and the description of
interfaces in introspection XML.
-/

namespace LintBus

/-- What a method does. -/
inductive Action where
  | parse
  | dispose
  | parseAll
  | diagnostics
deriving DecidableEq, Repr

/-- A named argument with the signature of its type. -/
structure Argument where
  name : String
  signature : String
deriving DecidableEq, Repr

/-- A method with its declared arguments. -/
structure Method where
  action : Action
  interface : Interface
  member : String
  inputs : List Argument
  outputs : List Argument
deriving DecidableEq, Repr

namespace Method

/-- Parse one document. -/
def parse : Method :=
  { action := .parse
    interface := .service
    member := "Parse"
    inputs := [⟨"path", "s"⟩, ⟨"dataPath", "s"⟩, ⟨"cursor", "(xx)"⟩, ⟨"options", "a\x7bsv\x7d"⟩]
    outputs := [⟨"documentPath", "o"⟩] }

/-- Close one document. -/
def dispose : Method :=
  { action := .dispose
    interface := .service
    member := "Dispose"
    inputs := [⟨"path", "s"⟩]
    outputs := [] }

/-- Parse the documents of a project together. -/
def parseAll : Method :=
  { action := .parseAll
    interface := .project
    member := "ParseAll"
    inputs :=
      [⟨"path", "s"⟩, ⟨"documents", "a(ss)"⟩, ⟨"cursor", "(xx)"⟩, ⟨"options", "a\x7bsv\x7d"⟩]
    outputs := [⟨"documents", "a(so)"⟩] }

/-- Read the diagnostics of a document. -/
def diagnostics : Method :=
  { action := .diagnostics
    interface := .diagnostics
    member := "Diagnostics"
    inputs := []
    outputs := [⟨"diagnostics", "a(ua((x(xx)(xx))s)a(x(xx)(xx))s)"⟩] }

/-- All methods. -/
def all : List Method := [parse, dispose, parseAll, diagnostics]

/-- The methods of an interface. -/
def ofInterface (interface : Interface) : List Method :=
  all.filter (·.interface == interface)

/-- The method of an interface with a given member name. -/
def find? (interface : Interface) (member : String) : Option Method :=
  (ofInterface interface).find? (·.member == member)

/-- The signature of all inputs. -/
def inputSignature (method : Method) : String :=
  String.join (method.inputs.map Argument.signature)

/-- The signature of all outputs. -/
def outputSignature (method : Method) : String :=
  String.join (method.outputs.map Argument.signature)

end Method

namespace Introspection

/-- The element for an argument. -/
def argument (direction : String) (argument : Argument) : String :=
  "      <arg direction=\"" ++ direction ++ "\" type=\"" ++ argument.signature ++ "\" name=\"" ++
    argument.name ++ "\"/>\n"

/-- The element for a method. -/
def method (method : Method) : String :=
  "    <method name=\"" ++ method.member ++ "\">\n" ++
    String.join (method.inputs.map (argument "in") ++ method.outputs.map (argument "out")) ++
    "    </method>\n"

/-- The element for an interface; it is empty when the interface has no methods. -/
def interface (interface : Interface) : String :=
  match Method.ofInterface interface with
  | [] => "  <interface name=\"" ++ interface.name ++ "\"/>\n"
  | methods =>
      "  <interface name=\"" ++ interface.name ++ "\">\n" ++
        String.join (methods.map method) ++ "  </interface>\n"

/-- The description of an object that offers some interfaces. -/
def xml (interfaces : List Interface) : String :=
  "<node>\n" ++ String.join (interfaces.map interface) ++ "</node>\n"

end Introspection
end LintBus
