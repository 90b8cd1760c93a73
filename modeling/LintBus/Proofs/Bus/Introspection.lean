import LintBus.Bus.Method

/-!
# Reading descriptions

A description can be read back: its tags are the stretches between angle brackets, a tag of an
interface opens an element, and a tag of a method in it lists a member of that interface.  The
description of some interfaces lists exactly the members of their methods.
-/

namespace LintBus
namespace Introspection

/-- The tags in a text without their brackets.  A text that begins inside of a tag goes on with
what has been read of the tag. -/
def tags : Option (List Char) → List Char → List (List Char)
  | _, [] => []
  | none, unit :: rest => tags (if unit = '<' then some [] else none) rest
  | some held, unit :: rest =>
      if unit = '>' then held :: tags none rest else tags (some (held ++ [unit])) rest

/-- The text between some opening words of a tag and the next quote. -/
def quotedAfter? (words : String) (tag : List Char) : Option String :=
  if words.toList.isPrefixOf tag then
    some (String.ofList ((tag.drop words.toList.length).takeWhile (· ≠ '"')))
  else none

/-- The interface whose element is open after a tag; one that closes itself stays closed. -/
def openAfter (current : Option String) (tag : List Char) : Option String :=
  match quotedAfter? "interface name=\"" tag with
  | some name => if tag.getLast? = some '/' then none else some name
  | none => if tag = "/interface".toList then none else current

/-- The member that a tag lists for the interface whose element is open. -/
def listedBy (current : Option String) (tag : List Char) : List (String × String) :=
  match current, quotedAfter? "method name=\"" tag with
  | some interface, some member => [(interface, member)]
  | _, _ => []

/-- The members that tags list, each with the interface whose element is open. -/
def members : Option String → List (List Char) → List (String × String)
  | _, [] => []
  | current, tag :: rest => listedBy current tag ++ members (openAfter current tag) rest

/-- The pairs of interface and member that a description lists. -/
def listed (xml : String) : List (String × String) := members none (tags none xml.toList)

private theorem tags_outside {left : List Char} (unopened : '<' ∉ left) (rest : List Char) :
    tags none (left ++ rest) = tags none rest := by
  induction left with
  | nil => rfl
  | cons unit left ih =>
      rw [List.mem_cons, not_or] at unopened
      rw [List.cons_append, tags, if_neg (Ne.symm unopened.1)]
      exact ih unopened.2

private theorem tags_inside {inner : List Char} (unclosed : '>' ∉ inner)
    (held rest : List Char) :
    tags (some held) (inner ++ '>' :: rest) = (held ++ inner) :: tags none rest := by
  induction inner generalizing held with
  | nil => simp [tags]
  | cons unit inner ih =>
      rw [List.mem_cons, not_or] at unclosed
      rw [List.cons_append, tags, if_neg (Ne.symm unclosed.1), ih unclosed.2]
      simp

private theorem tags_tag {text before inner behind : List Char}
    (text_eq : text = before ++ '<' :: (inner ++ '>' :: behind)) (unopened : '<' ∉ before)
    (unclosed : '>' ∉ inner) (rest : List Char) :
    tags none (text ++ rest) = inner :: tags none (behind ++ rest) := by
  have spread : text ++ rest = before ++ '<' :: (inner ++ '>' :: (behind ++ rest)) := by
    simp [text_eq]
  rw [spread, tags_outside unopened, tags, if_pos rfl, tags_inside unclosed, List.nil_append]

private theorem tags_spliced {front back before opening middle closing behind : List Char}
    (front_eq : front = before ++ '<' :: opening) (back_eq : back = closing ++ '>' :: behind)
    (unopened : '<' ∉ before) (unclosed : '>' ∉ opening ++ (middle ++ closing))
    (rest : List Char) :
    tags none (front ++ (middle ++ (back ++ rest))) =
      (opening ++ (middle ++ closing)) :: tags none (behind ++ rest) := by
  have text_eq : front ++ (middle ++ back) =
      before ++ '<' :: ((opening ++ (middle ++ closing)) ++ '>' :: behind) := by
    simp [front_eq, back_eq]
  have read := tags_tag text_eq unopened unclosed rest
  rwa [List.append_assoc, List.append_assoc] at read

/-- A text that can stand between quotes in a tag. -/
def Quotable (text : String) : Prop := '"' ∉ text.toList ∧ '>' ∉ text.toList

instance (text : String) : Decidable (Quotable text) := inferInstanceAs (Decidable (_ ∧ _))

private theorem quotedAfter?_quoted {text : String} (quotable : Quotable text) (words : String)
    (rest : List Char) :
    quotedAfter? words (words.toList ++ (text.toList ++ '"' :: rest)) = some text := by
  have quoted : (text.toList ++ '"' :: rest).takeWhile (· ≠ '"') = text.toList := by
    have unquoted : ∀ unit ∈ text.toList, decide (unit ≠ '"') = true := by
      intro unit found
      have different : unit ≠ '"' := fun same => quotable.1 (same ▸ found)
      simpa using different
    rw [List.takeWhile_append_of_pos unquoted]
    simp
  have begun : words.toList.isPrefixOf (words.toList ++ (text.toList ++ '"' :: rest)) = true :=
    List.isPrefixOf_iff_prefix.mpr (List.prefix_append _ _)
  rw [quotedAfter?, if_pos begun, List.drop_left, quoted, String.ofList_toList]

private theorem quotedAfter?_of_head (words : String) {tag : List Char} {first other : Char}
    (word : words.toList.head? = some first) (begins : tag.head? = some other)
    (different : first ≠ other) : quotedAfter? words tag = none := by
  obtain ⟨word_rest, word_eq⟩ := List.head?_eq_some_iff.mp word
  obtain ⟨tag_rest, rfl⟩ := List.head?_eq_some_iff.mp begins
  rw [quotedAfter?, word_eq]
  simp [different]

private theorem listedBy_of_head {tag : List Char} {other : Char} (begins : tag.head? = some other)
    (different : 'm' ≠ other) (current : Option String) : listedBy current tag = [] := by
  have absent := quotedAfter?_of_head "method name=\"" (by decide) begins different
  cases current <;> simp only [listedBy, absent]

/-- A tag that begins neither like one of an interface nor like a closing one opens and closes no
element of an interface. -/
theorem openAfter_of_head {tag : List Char} {other : Char} (begins : tag.head? = some other)
    (different : 'i' ≠ other) (unclosing : '/' ≠ other) (current : Option String) :
    openAfter current tag = current := by
  have absent := quotedAfter?_of_head "interface name=\"" (by decide) begins different
  have unlike : tag ≠ "/interface".toList := by
    intro same
    rw [same] at begins
    exact unclosing (Option.some.inj begins)
  simp only [openAfter, absent, if_neg unlike]

/-- The element of an argument lists nothing. -/
theorem members_argument {entry : Argument} {direction : String}
    (quotable : Quotable entry.name ∧ Quotable entry.signature) (directed : Quotable direction)
    (current : Option String) (rest : List Char) :
    members current (tags none ((argument direction entry).toList ++ rest)) =
      members current (tags none rest) := by
  let middle := direction.toList ++ ("\" type=\"".toList ++ (entry.signature.toList ++
    ("\" name=\"".toList ++ entry.name.toList)))
  let tag := "arg direction=\"".toList ++ (middle ++ "\"/".toList)
  have text_eq : (argument direction entry).toList ++ rest =
      "      <arg direction=\"".toList ++ (middle ++ ("\"/>\n".toList ++ rest)) := by
    unfold argument
    simp only [middle, String.toList_append, List.append_assoc]
  have unclosed : '>' ∉ tag := by
    simp [tag, middle, quotable.1.2, quotable.2.2, directed.2]
  have front_eq : "      <arg direction=\"".toList =
      "      ".toList ++ '<' :: "arg direction=\"".toList := by decide +kernel
  have back_eq : "\"/>\n".toList = "\"/".toList ++ '>' :: "\n".toList := by decide +kernel
  have begins : tag.head? = some 'a' := by simp [tag]
  rw [text_eq, tags_spliced front_eq back_eq (by decide) unclosed, tags_outside (by decide),
    members, listedBy_of_head begins (by decide),
    openAfter_of_head begins (by decide) (by decide), List.nil_append]

/-- All texts of a method can stand between quotes. -/
def MethodQuotable (entry : Method) : Prop :=
  Quotable entry.member ∧
    ∀ given ∈ entry.inputs ++ entry.outputs, Quotable given.name ∧ Quotable given.signature

instance (entry : Method) : Decidable (MethodQuotable entry) :=
  inferInstanceAs (Decidable (_ ∧ _))

private theorem members_arguments {given : List Argument} {direction : String}
    (quotable : ∀ entry ∈ given, Quotable entry.name ∧ Quotable entry.signature)
    (directed : Quotable direction) (current : Option String) (rest : List Char) :
    members current (tags none ((String.join (given.map (argument direction))).toList ++ rest)) =
      members current (tags none rest) := by
  induction given with
  | nil => simp
  | cons entry given ih =>
      have others := ih fun other found => quotable other (List.mem_cons_of_mem _ found)
      rw [List.map_cons, String.join_cons, String.toList_append, List.append_assoc,
        members_argument (quotable entry List.mem_cons_self) directed, others]

/-- The element of a method lists its member for the interface whose element is open. -/
theorem members_method {entry : Method} (quotable : MethodQuotable entry) (current : String)
    (rest : List Char) :
    members (some current) (tags none ((method entry).toList ++ rest)) =
      (current, entry.member) :: members (some current) (tags none rest) := by
  obtain ⟨named, typed⟩ := quotable
  let tag := "method name=\"".toList ++ (entry.member.toList ++ "\"".toList)
  let inputs := (String.join (entry.inputs.map (argument "in"))).toList
  let outputs := (String.join (entry.outputs.map (argument "out"))).toList
  have text_eq : (method entry).toList ++ rest =
      "    <method name=\"".toList ++ (entry.member.toList ++ ("\">\n".toList ++
        (inputs ++ (outputs ++ ("    </method>\n".toList ++ rest))))) := by
    unfold method
    simp only [inputs, outputs, String.toList_append, String.join_append, List.append_assoc]
  have front_eq : "    <method name=\"".toList =
      "    ".toList ++ '<' :: "method name=\"".toList := by decide +kernel
  have back_eq : "\">\n".toList = "\"".toList ++ '>' :: "\n".toList := by decide +kernel
  have end_eq : "    </method>\n".toList =
      "    ".toList ++ '<' :: ("/method".toList ++ '>' :: "\n".toList) := by decide +kernel
  have unclosed : '>' ∉ tag := by simp [tag, named.2]
  have begins : tag.head? = some 'm' := by simp [tag]
  have lists : listedBy (some current) tag = [(current, entry.member)] := by
    have quoted := quotedAfter?_quoted named "method name=\"" []
    have tag_eq : tag = "method name=\"".toList ++ (entry.member.toList ++ '"' :: []) := rfl
    simp only [listedBy, tag_eq, quoted]
  have ends : members (some current) (tags none ("    </method>\n".toList ++ rest)) =
      members (some current) (tags none rest) := by
    rw [tags_tag end_eq (by decide) (by decide), tags_outside (by decide), members]
    rfl
  rw [text_eq, tags_spliced front_eq back_eq (by decide) unclosed, tags_outside (by decide),
    members, lists, openAfter_of_head begins (by decide) (by decide),
    members_arguments (fun given found => typed given (List.mem_append_left _ found)) (by decide),
    members_arguments (fun given found => typed given (List.mem_append_right _ found)) (by decide),
    ends]
  rfl

private theorem members_methods {entries : List Method}
    (quotable : ∀ entry ∈ entries, MethodQuotable entry) (current : String) (rest : List Char) :
    members (some current) (tags none ((String.join (entries.map method)).toList ++ rest)) =
      entries.map (fun entry => (current, entry.member)) ++
        members (some current) (tags none rest) := by
  induction entries with
  | nil => simp
  | cons entry entries ih =>
      have others := ih fun other found => quotable other (List.mem_cons_of_mem _ found)
      rw [List.map_cons, String.join_cons, String.toList_append, List.append_assoc,
        members_method (quotable entry List.mem_cons_self), others]
      rfl

private theorem name_quotable (shown : Interface) : Quotable shown.name := by
  cases shown <;> decide +kernel

private theorem method_quotable : ∀ entry ∈ Method.all, MethodQuotable entry := by
  decide +kernel

/-- A tag of an interface opens its element, unless it closes itself. -/
private theorem openAfter_quoted {name : String} (quotable : Quotable name)
    (current : Option String) (rest : List Char) :
    openAfter current ("interface name=\"".toList ++ (name.toList ++ '"' :: rest)) =
      if ('"' :: rest).getLast? = some '/' then none else some name := by
  have quoted := quotedAfter?_quoted quotable "interface name=\"" rest
  have last_eq : ("interface name=\"".toList ++ (name.toList ++ '"' :: rest)).getLast? =
      ('"' :: rest).getLast? := by
    rw [List.getLast?_append, List.getLast?_append, List.getLast?_cons]
    rfl
  simp only [openAfter, quoted, last_eq]

/-- The element of an interface lists the members of its methods. -/
theorem members_interface (shown : Interface) (rest : List Char) :
    members none (tags none ((interface shown).toList ++ rest)) =
      (Method.ofInterface shown).map (fun entry => (shown.name, entry.member)) ++
        members none (tags none rest) := by
  have quotable := name_quotable shown
  have front_eq : "  <interface name=\"".toList =
      "  ".toList ++ '<' :: "interface name=\"".toList := by decide +kernel
  have unclosed : ∀ {closing : List Char}, '>' ∉ closing →
      '>' ∉ "interface name=\"".toList ++ (shown.name.toList ++ closing) := by
    intro closing closing_unclosed
    simp [quotable.2, closing_unclosed]
  have unlisted : ∀ closing : List Char, listedBy none
      ("interface name=\"".toList ++ (shown.name.toList ++ closing)) = [] := fun _ => rfl
  cases methods : Method.ofInterface shown with
  | nil =>
      have back_eq : "\"/>\n".toList = ['"', '/'] ++ '>' :: "\n".toList := by decide +kernel
      have text_eq : (interface shown).toList ++ rest =
          "  <interface name=\"".toList ++ (shown.name.toList ++ ("\"/>\n".toList ++ rest)) := by
        unfold interface
        simp only [methods, String.toList_append, List.append_assoc]
      rw [text_eq, tags_spliced front_eq back_eq (by decide) (unclosed (by decide)),
        tags_outside (by decide), members, unlisted, openAfter_quoted quotable,
        if_pos (by decide)]
      rfl
  | cons first others =>
      have back_eq : "\">\n".toList = ['"'] ++ '>' :: "\n".toList := by decide +kernel
      have end_eq : "  </interface>\n".toList =
          "  ".toList ++ '<' :: ("/interface".toList ++ '>' :: "\n".toList) := by decide +kernel
      have text_eq : (interface shown).toList ++ rest =
          "  <interface name=\"".toList ++ (shown.name.toList ++ ("\">\n".toList ++
            ((String.join ((first :: others).map method)).toList ++
              ("  </interface>\n".toList ++ rest)))) := by
        unfold interface
        simp only [methods, String.toList_append, List.append_assoc]
      have entries_quotable : ∀ entry ∈ first :: others, MethodQuotable entry := by
        intro entry found
        rw [← methods] at found
        exact method_quotable entry (List.mem_filter.mp found).1
      have ends : members (some shown.name) (tags none ("  </interface>\n".toList ++ rest)) =
          members none (tags none rest) := by
        rw [tags_tag end_eq (by decide) (by decide), tags_outside (by decide), members]
        rfl
      rw [text_eq, tags_spliced front_eq back_eq (by decide) (unclosed (by decide)),
        tags_outside (by decide), members, unlisted, openAfter_quoted quotable,
        if_neg (by decide), members_methods entries_quotable, ends, List.nil_append]

/-- The description of some interfaces lists exactly the members of their methods. -/
theorem listed_xml (interfaces : List Interface) :
    listed (xml interfaces) = interfaces.flatMap fun shown =>
      (Method.ofInterface shown).map fun entry => (shown.name, entry.member) := by
  have elements : ∀ rest : List Char,
      members none (tags none ((String.join (interfaces.map interface)).toList ++ rest)) =
        (interfaces.flatMap fun shown =>
          (Method.ofInterface shown).map fun entry => (shown.name, entry.member)) ++
        members none (tags none rest) := by
    intro rest
    induction interfaces with
    | nil => simp
    | cons shown interfaces ih =>
        rw [List.map_cons, String.join_cons, String.toList_append, List.append_assoc,
          members_interface, ih, List.flatMap_cons, List.append_assoc]
  have root_eq : "<node>\n".toList = [] ++ '<' :: ("node".toList ++ '>' :: "\n".toList) := by
    decide +kernel
  have end_eq : "</node>\n".toList = [] ++ '<' :: ("/node".toList ++ '>' :: "\n".toList) := by
    decide +kernel
  have text_eq : (xml interfaces).toList = "<node>\n".toList ++
      ((String.join (interfaces.map interface)).toList ++ ("</node>\n".toList ++ [])) := by
    unfold xml
    simp only [String.toList_append, List.append_assoc, List.append_nil]
  have root_opens : openAfter none "node".toList = none := by decide +kernel
  have nothing : members none (tags none ("</node>\n".toList ++ [])) = [] := by
    rw [tags_tag end_eq (by decide) (by decide), tags_outside (by decide)]
    rfl
  rw [listed, text_eq, tags_tag root_eq (by decide) (by decide), tags_outside (by decide),
    members, root_opens, elements, nothing, List.append_nil]
  rfl

end Introspection
end LintBus
