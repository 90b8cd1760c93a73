import LintBus.Json.Reader

/-!
# Requests

A message is a JSON object with the members `jsonrpc`, `method`, `params` and `id`, or an array of
them in that order of which the later ones may be left out. Members that are not known are
skipped; a member that is known may stand only once. A message without an identifier is a
notification. A text that is no such message is not told apart any further.
-/

namespace LintBus
namespace Rpc

open Json (Value Cursor Strictness readFront readString readColon)

/-- The identifier of a request. -/
inductive Id where
  | number (value : Int)
  | text (value : String)
  | null
deriving DecidableEq, Repr

/-- The value of an identifier. -/
def Id.toValue : Id → Value
  | .number value => .ofInt value
  | .text value => .string value
  | .null => .null

/-- The identifier that a value stands for. -/
def Id.ofValue? : Value → Option Id
  | .number (.integer value) => if value ≤ 9223372036854775807 then some (.number value) else none
  | .string value => some (.text value)
  | .null => some .null
  | _ => none

/-- A message of a client. -/
structure Request where
  method : String
  params : Option Value
  id : Option Id

/-- The members of a message read so far. -/
structure Members where
  /-- The version was given. -/
  versioned : Bool
  method : Option String
  params : Option Value
  id : Option Id

namespace Members

/-- No member has been read. -/
def none : Members := ⟨false, .none, .none, .none⟩

/-- Take over a member, unless it was there already or has the wrong type. -/
def set? (members : Members) (name : String) (value : Value) : Option Members :=
  match name, value with
  | "jsonrpc", .string version =>
      if members.versioned || version != "2.0" then .none
      else some { members with versioned := true }
  | "method", .string method =>
      if members.method.isSome then .none else some { members with method := some method }
  | "params", params =>
      if members.params.isSome then .none else some { members with params := some params }
  | "id", id =>
      if members.id.isSome then .none
      else (Id.ofValue? id).map fun id => { members with id := some id }
  | _, _ => .none

/-- The request, if the version was given; a method that was left out is empty. -/
def toRequest? (members : Members) : Option Request :=
  if members.versioned then some ⟨members.method.getD "", members.params, members.id⟩ else .none

end Members

/-- The known members in the order in which an array holds them. -/
def memberNames : List String := ["jsonrpc", "method", "params", "id"]

/-- Brackets in a message may nest less deeply than this below the message itself. -/
def memberDepth : Nat := Json.depthLimit - 1

/-- Read the value of a member and take it over. -/
def readMember (members : Members) (name : String) (cursor : Cursor) : Option (Members × Cursor) :=
  if memberNames.contains name then
    match readFront .full memberDepth cursor with
    | .error _ => none
    | .ok (value, cursor) => (members.set? name value).map fun members => (members, cursor)
  else
    match readFront .skipping (cursor.rest.length + 2) cursor with
    | .error _ => none
    | .ok (_, cursor) => some (members, cursor)

/-- Read the members of an object from a key on. -/
def readObject : Nat → Members → Cursor → Option (Members × Cursor)
  | 0, _, _ => none
  | steps + 1, members, cursor =>
      match cursor.rest with
      | '"' :: rest =>
          match readString .full ⟨rest, cursor.offset + 1⟩ with
          | .error _ => none
          | .ok (name, cursor) =>
              match readColon cursor with
              | .error _ => none
              | .ok (_, cursor) =>
                  match readMember members name cursor with
                  | none => none
                  | some (members, cursor) =>
                      let cursor := cursor.skipBlank
                      match cursor.rest with
                      | '\x7d' :: rest => some (members, ⟨rest, cursor.offset + 1⟩)
                      | ',' :: rest =>
                          readObject steps members (Cursor.skipBlank ⟨rest, cursor.offset + 1⟩)
                      | _ => none
      | _ => none

/-- Read the members of an array from an element on; `names` are those still to come. -/
def readArray : List String → Members → Cursor → Option (Members × Cursor)
  | [], _, _ => none
  | name :: names, members, cursor =>
      match readMember members name cursor with
      | none => none
      | some (members, cursor) =>
          let cursor := cursor.skipBlank
          match cursor.rest with
          | ']' :: rest => some (members, ⟨rest, cursor.offset + 1⟩)
          | ',' :: rest => readArray names members ⟨rest, cursor.offset + 1⟩
          | _ => none

/-- Read the members of a message. -/
def readMembers (cursor : Cursor) : Option (Members × Cursor) :=
  let cursor := cursor.skipBlank
  match cursor.rest with
  | '\x7b' :: rest =>
      readObject (rest.length + 1) .none (Cursor.skipBlank ⟨rest, cursor.offset + 1⟩)
  | '[' :: rest => readArray memberNames .none ⟨rest, cursor.offset + 1⟩
  | _ => none

/-- The request that a line stands for. -/
def Request.read? (line : String) : Option Request :=
  match readMembers (.ofString line) with
  | none => none
  | some (members, cursor) =>
      if cursor.skipBlank.rest.isEmpty then members.toRequest? else none

end Rpc
end LintBus
