import LintBus.Proofs.Client.Unspelled
import LintBus.Proofs.Service.Routing

/-!
# Calls in other spellings

A call stands for another when it is the same but for the spellings of the paths among its
arguments.  Both are then refused for the same reason, or they make jobs that are the same but for
spellings.
-/

namespace LintBus

open Json (Value Decoder DecodeError ExpectedLength)

namespace Json

/-- Two results are the same error, or values that are related. -/
inductive Concur {ε α : Type} (related : α → α → Prop) : Except ε α → Except ε α → Prop
  | error (error : ε) : Concur related (.error error) (.error error)
  | ok {left right : α} (same : related left right) : Concur related (.ok left) (.ok right)

namespace Concur

variable {ε α β : Type} {related : α → α → Prop} {related' : β → β → Prop}

theorem error_or_ok {left right : Except ε α} (alike : Concur related left right) :
    (∃ error, left = .error error ∧ right = .error error) ∨
      ∃ value value', left = .ok value ∧ right = .ok value' ∧ related value value' := by
  cases alike with
  | error error => exact .inl ⟨error, rfl, rfl⟩
  | @ok value value' same => exact .inr ⟨value, value', rfl, rfl, same⟩

private theorem bind {left right : Except ε α} {next next' : α → Except ε β}
    (alike : Concur related left right)
    (rest : ∀ value value', related value value' → Concur related' (next value) (next' value')) :
    Concur related' (left >>= next) (right >>= next') := by
  cases alike with
  | error error => exact .error error
  | ok same => exact rest _ _ same

private theorem bind_same (given : Except ε α) {next next' : α → Except ε β}
    (rest : ∀ value, Concur related' (next value) (next' value)) :
    Concur related' (given >>= next) (given >>= next') := by
  cases given with
  | error error => exact .error error
  | ok value => exact rest value

private theorem map {left right : Except ε α} {change : α → β} (alike : Concur related left right)
    (kept : ∀ value value', related value value' → related' (change value) (change value')) :
    Concur related' (left.map change) (right.map change) := by
  cases alike with
  | error error => exact .error error
  | ok same => exact .ok (kept _ _ same)

theorem mapM {γ : Type} {items : γ → γ → Prop} {decode decode' : γ → Except ε α}
    (respects : ∀ left right, items left right → Concur related (decode left) (decode' right))
    {lefts rights : List γ} (listed : List.Forall₂ items lefts rights) :
    Concur (List.Forall₂ related) (lefts.mapM decode) (rights.mapM decode') := by
  induction listed with
  | nil => exact .ok .nil
  | cons first _ induction =>
      rw [List.mapM_cons, List.mapM_cons]
      refine (respects _ _ first).bind fun value value' same => ?_
      exact induction.bind fun values values' others => .ok (.cons same others)

end Concur

/-- Two values are the same, or related texts. -/
inductive Texts (related : String → String → Prop) : Value → Value → Prop
  | same (value : Value) : Texts related value value
  | texts {left right : String} (respelled : related left right) :
      Texts related (.string left) (.string right)

/-- Two values are the same, or arrays of related items. -/
inductive Arrays (related : List Value → List Value → Prop) : Value → Value → Prop
  | same (value : Value) : Arrays related value value
  | arrays {left right : List Value} (items : related left right) :
      Arrays related (.array left) (.array right)

/-- Two rows of values: the first ones are related, one by one, and the others are the same. -/
inductive Row : List (Value → Value → Prop) → List Value → List Value → Prop
  | done (relations : List (Value → Value → Prop)) : Row relations [] []
  | rest (values : List Value) : Row [] values values
  | next {relation : Value → Value → Prop} {relations : List (Value → Value → Prop)}
      {left right : Value} {lefts rights : List Value} (first : relation left right)
      (others : Row relations lefts rights) :
      Row (relation :: relations) (left :: lefts) (right :: rights)

namespace Row

variable {relations : List (Value → Value → Prop)} {lefts rights : List Value}

theorem refl (relations : List (Value → Value → Prop)) (values : List Value)
    (same : ∀ relation ∈ relations, ∀ value, relation value value) :
    Row relations values values := by
  induction relations generalizing values with
  | nil => exact .rest values
  | cons relation relations induction =>
      obtain ⟨first, others⟩ := List.forall_mem_cons.mp same
      cases values with
      | nil => exact .done _
      | cons value values => exact .next (first value) (induction values others)

private theorem length_eq (row : Row relations lefts rights) : lefts.length = rights.length := by
  induction row with
  | done relations => rfl
  | rest values => rfl
  | next first others induction => simp [induction]

private theorem noMore_eq (row : Row relations lefts rights) (size : Nat) :
    Decoder.noMore lefts size = Decoder.noMore rights size := by
  rw [Decoder.noMore, Decoder.noMore, row.length_eq]

private theorem at_index {relation : Value → Value → Prop} {index : Nat}
    (row : Row relations lefts rights) (at_index : relations[index]? = some relation) :
    Option.Rel relation lefts[index]? rights[index]? := by
  induction row generalizing index with
  | done relations => exact .none
  | rest values => simp at at_index
  | @next first_relation relations left right lefts rights first others induction =>
      cases index with
      | zero =>
          obtain rfl : first_relation = relation := by simpa using at_index
          exact .some first
      | succ index => simpa using induction (by simpa using at_index)

private theorem beyond {index : Nat} (row : Row relations lefts rights)
    (beyond : relations.length ≤ index) : lefts[index]? = rights[index]? := by
  induction row generalizing index with
  | done relations => rfl
  | rest values => rfl
  | next first others induction =>
      cases index with
      | zero => simp at beyond
      | succ index => simpa using induction (by simpa using beyond)

private theorem element_alike {α : Type} {relation : Value → Value → Prop} {related : α → α → Prop}
    {decode : Decoder α} {index : Nat} (row : Row relations lefts rights)
    (at_index : relations[index]? = some relation)
    (respects : ∀ left right, relation left right → Concur related (decode left) (decode right))
    (length : ExpectedLength) :
    Concur related (Decoder.element decode length lefts index)
      (Decoder.element decode length rights index) := by
  have found := row.at_index at_index
  rw [Decoder.element, Decoder.element]
  generalize lefts[index]? = left at found ⊢
  generalize rights[index]? = right at found ⊢
  cases found with
  | none => exact .error _
  | some same => exact respects _ _ same

private theorem element_eq {α : Type} (decode : Decoder α) {index : Nat}
    (row : Row relations lefts rights) (beyond : relations.length ≤ index)
    (length : ExpectedLength) :
    Decoder.element decode length lefts index = Decoder.element decode length rights index := by
  rw [Decoder.element, Decoder.element, row.beyond beyond]

end Row

namespace Decoder

private theorem string_alike {related : String → String → Prop} (refl : ∀ text, related text text)
    {left right : Value} (texts : Texts related left right) :
    Concur related (string left) (string right) := by
  cases texts with
  | texts respelled => exact .ok respelled
  | same =>
      cases left with
      | string text => exact .ok (refl text)
      | _ => exact .error _

theorem list_alike {α : Type} {items : Value → Value → Prop} {related : α → α → Prop}
    (refl : ∀ value, items value value) {decode : Decoder α}
    (respects : ∀ left right, items left right → Concur related (decode left) (decode right))
    {left right : Value} (arrays : Arrays (List.Forall₂ items) left right) :
    Concur (List.Forall₂ related) (list decode left) (list decode right) := by
  cases arrays with
  | arrays listed => exact .mapM respects listed
  | same =>
      cases left with
      | array listed => exact .mapM respects (List.forall₂_same.mpr fun value _ => refl value)
      | _ => exact .error _

theorem element_string_alike {related : String → String → Prop}
    (refl : ∀ text, related text text) {relations : List (Value → Value → Prop)}
    {lefts rights : List Value} (row : Row relations lefts rights) {index : Nat}
    (at_index : relations[index]? = some (Texts related)) (length : ExpectedLength) :
    Concur related (element string length lefts index) (element string length rights index) :=
  row.element_alike at_index (fun _ _ => string_alike refl) length

end Decoder
end Json

open Json (Concur Texts Arrays Row)

/-- A pair of a path and the place of its contents stands for another. -/
def Addressing.RespellsPair (addressing : Addressing) (left right : String × String) : Prop :=
  addressing.Respells left.1 right.1 ∧ addressing.Respells left.2 right.2

private theorem Addressing.RespellsPair.any_isEmpty {addressing : Addressing}
    {opens opens' : List (String × String)}
    (pairs : List.Forall₂ addressing.RespellsPair opens opens') :
    opens.any (·.1.isEmpty) = opens'.any (·.1.isEmpty) := by
  induction pairs with
  | nil => rfl
  | cons first _ induction => rw [List.any_cons, List.any_cons, first.1.isEmpty_eq, induction]

/-- A job stands for another.  A path that is only closed may be empty. -/
inductive Job.Respells (addressing : Addressing) : Job → Job → Prop
  | parse {path path' contents contents' : String} (cursor : Location) (options : Json.Entries)
      (paths : addressing.Respells path path')
      (places : addressing.Respells contents contents') :
      Respells addressing (.parse ⟨path, contents, cursor, options⟩)
        (.parse ⟨path', contents', cursor, options⟩)
  | close {path path' : String}
      (same : (addressing.canonical path).same (addressing.canonical path') = true) :
      Respells addressing (.close path) (.close path')
  | parseAll {path path' : String} {members members' : List (String × String)}
      (cursor : Location) (options : Json.Entries) (paths : addressing.Respells path path')
      (pairs : List.Forall₂ addressing.RespellsPair members members') :
      Respells addressing (.parseAll ⟨path, members, cursor, options⟩)
        (.parseAll ⟨path', members', cursor, options⟩)
  | diagnostics : Respells addressing .diagnostics .diagnostics

theorem Job.Respells.refl (addressing : Addressing) (job : Job) : job.Respells addressing job := by
  have same := Addressing.Respells.refl addressing
  cases job with
  | parse request => exact .parse request.cursor request.options (same _) (same _)
  | close path => exact .close (FilePath.same_refl _)
  | parseAll request =>
      exact .parseAll request.cursor request.options (same _)
        (List.forall₂_same.mpr fun member _ => ⟨same member.1, same member.2⟩)
  | diagnostics => exact .diagnostics

/-- The arguments of an action stand for others: they are the same but for the spellings of paths
and of places of contents. -/
def Action.Respells (addressing : Addressing) : Action → List Value → List Value → Prop
  | .parse => Row [Texts addressing.Respells, Texts addressing.Respells]
  | .dispose =>
      Row [Texts fun path path' =>
        (addressing.canonical path).same (addressing.canonical path') = true]
  | .parseAll =>
      Row [Texts addressing.Respells,
        Arrays (List.Forall₂ (Arrays
          (Row [Texts addressing.Respells, Texts addressing.Respells])))]
  | .diagnostics => Eq

private theorem Action.Respells.refl (addressing : Addressing) (action : Action)
    (args : List Value) :
    action.Respells addressing args args := by
  cases action with
  | parse => exact Row.refl _ args (by simp [Texts.same])
  | dispose => exact Row.refl _ args (by simp [Texts.same])
  | parseAll => exact Row.refl _ args (by simp [Texts.same, Arrays.same])
  | diagnostics => rfl

variable {addressing : Addressing}

namespace Job

private theorem pair_alike {left right : Value}
    (arrays : Arrays (Row [Texts addressing.Respells, Texts addressing.Respells]) left right) :
    Concur addressing.RespellsPair (Decoder.pair .string .string left)
      (Decoder.pair .string .string right) := by
  have refl := Addressing.Respells.refl addressing
  have rows : ∀ {lefts rights : List Value},
      Row [Texts addressing.Respells, Texts addressing.Respells] lefts rights →
        Concur addressing.RespellsPair (Decoder.pair .string .string (.array lefts))
          (Decoder.pair .string .string (.array rights)) := by
    intro lefts rights row
    refine (Decoder.element_string_alike refl row rfl _).bind
      fun path path' paths => ?_
    refine (Decoder.element_string_alike refl row rfl _).bind
      fun contents contents' places => ?_
    rw [row.noMore_eq]
    exact .bind_same _ fun _ => .ok ⟨paths, places⟩
  cases arrays with
  | arrays row => exact rows row
  | same =>
      cases left with
      | array listed => exact rows (.refl _ listed (by simp [Texts.same]))
      | _ => exact .error _

private theorem decode_parse_alike {args args' : List Value}
    (row : Row [Texts addressing.Respells, Texts addressing.Respells] args args') :
    Concur (fun left right => Job.Respells addressing (.parse left) (.parse right))
      (ParseRequest.decode args) (ParseRequest.decode args') := by
  have refl := Addressing.Respells.refl addressing
  rw [ParseRequest.decode, ParseRequest.decode, row.element_eq Location.decode (by simp),
    row.element_eq Decoder.entries (by simp), row.noMore_eq]
  refine (Decoder.element_string_alike refl row rfl _).bind fun path path' paths => ?_
  refine (Decoder.element_string_alike refl row rfl _).bind fun contents contents' places => ?_
  exact .bind_same _ fun cursor => .bind_same _ fun options => .bind_same _ fun _ =>
    .ok (.parse cursor options paths places)

private theorem decode_close_alike {args args' : List Value}
    (row : Row [Texts fun path path' =>
      (addressing.canonical path).same (addressing.canonical path') = true] args args') :
    Concur (fun left right => Job.Respells addressing (.close left) (.close right))
      (decodeClosed args) (decodeClosed args') := by
  rw [decodeClosed, decodeClosed, row.noMore_eq]
  refine (Decoder.element_string_alike (fun _ => FilePath.same_refl _) row rfl _).bind
    fun path path' same => ?_
  exact .bind_same _ fun _ => .ok (.close same)

private theorem decode_parseAll_alike {args args' : List Value}
    (row : Row [Texts addressing.Respells,
      Arrays (List.Forall₂ (Arrays
        (Row [Texts addressing.Respells, Texts addressing.Respells])))] args args') :
    Concur (fun left right => Job.Respells addressing (.parseAll left) (.parseAll right))
      (ParseAllRequest.decode args) (ParseAllRequest.decode args') := by
  have refl := Addressing.Respells.refl addressing
  rw [ParseAllRequest.decode, ParseAllRequest.decode,
    row.element_eq Location.decode (by simp), row.element_eq Decoder.entries (by simp),
    row.noMore_eq]
  refine (Decoder.element_string_alike refl row rfl _).bind fun path path' paths => ?_
  have members_alike : ∀ left right, Arrays (List.Forall₂ (Arrays
      (Row [Texts addressing.Respells, Texts addressing.Respells]))) left right →
        Concur (List.Forall₂ addressing.RespellsPair)
          (Decoder.list (Decoder.pair .string .string) left)
          (Decoder.list (Decoder.pair .string .string) right) := by
    intro left right arrays
    exact Decoder.list_alike Arrays.same (fun _ _ => pair_alike) arrays
  refine (row.element_alike rfl members_alike _).bind fun members members' pairs => ?_
  exact .bind_same _ fun cursor => .bind_same _ fun options => .bind_same _ fun _ =>
    .ok (.parseAll cursor options paths pairs)

private theorem decode_alike {action : Action} {args args' : List Value}
    (respells : action.Respells addressing args args') :
    Concur (Job.Respells addressing) (decode action args) (decode action args') := by
  cases action with
  | parse => exact (decode_parse_alike respells).map fun _ _ => id
  | dispose => exact (decode_close_alike respells).map fun _ _ => id
  | parseAll => exact (decode_parseAll_alike respells).map fun _ _ => id
  | diagnostics => exact .ok .diagnostics

private theorem Respells.opens {job job' : Job} (respells : Job.Respells addressing job job') :
    List.Forall₂ addressing.RespellsPair job.opens job'.opens := by
  cases respells with
  | parse cursor options paths places => exact .cons ⟨paths, places⟩ .nil
  | close same => exact .nil
  | parseAll cursor options paths pairs => exact .cons ⟨paths, .refl addressing ""⟩ pairs
  | diagnostics => exact .nil

/-- Arguments that stand for others are refused for the same reason or make such jobs. -/
theorem ofArgs_alike {method : Method} {args args' : List Value}
    (respells : method.action.Respells addressing args args') :
    Concur (Job.Respells addressing) (ofArgs method args) (ofArgs method args') := by
  have decoded := decode_alike respells
  rw [ofArgs, ofArgs]
  generalize decode method.action args = outcome at decoded ⊢
  generalize decode method.action args' = outcome' at decoded ⊢
  cases decoded with
  | error error => exact .error _
  | ok same =>
      simp only [Addressing.RespellsPair.any_isEmpty same.opens]
      split
      · exact .error _
      · exact .ok same

end Job

/-- A call stands for another: it is the same, or it calls the same method with arguments that
stand for those of the other. -/
inductive Call.Respells (addressing : Addressing) : Call → Call → Prop
  | same (call : Call) : Respells addressing call call
  | method {method : Method} (listed : method ∈ Method.all) (sender path : String)
      {args args' : List Value} (respells : method.action.Respells addressing args args') :
      Respells addressing ⟨sender, path, method.interface.name, method.member, args⟩
        ⟨sender, path, method.interface.name, method.member, args'⟩

namespace Call.Respells

variable {call call' : Call}

/-- A call that stands for another differs from it at most by its arguments. -/
theorem args_only (respells : call.Respells addressing call') :
    ∃ args, call' = { call with args := args } := by
  cases respells with
  | same => exact ⟨call.args, rfl⟩
  | method => exact ⟨_, rfl⟩

/-- The arguments stand for others as those of any method that the call may name. -/
theorem args (respells : call.Respells addressing call') {method : Method}
    (listed : method ∈ Method.all) (named : method.interface.name = call.interface)
    (member_eq : method.member = call.member) :
    method.action.Respells addressing call.args call'.args := by
  cases respells with
  | same => exact .refl addressing _ _
  | @method other other_listed sender path args args' respelled =>
      have interface_eq : method.interface = other.interface :=
        Option.some.inj ((Interface.ofName?_eq_some.mpr named).symm.trans
          (Interface.ofName?_name other.interface))
      have found := Method.find?_member method listed
      rw [interface_eq, member_eq, Method.find?_member other other_listed] at found
      obtain rfl := Option.some.inj found
      exact respelled

end Call.Respells

end LintBus
