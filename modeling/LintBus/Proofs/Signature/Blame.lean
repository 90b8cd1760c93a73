import LintBus.Proofs.Signature.Conformance

/-!
# What a mismatch blames

The parts of a value stand in a row, each with the step that leads to it and the type that it is
checked against.  The check of a value looks at its own level and then at its parts from left to
right, so it ends at the first value, containers before their parts, whose own level is wrong.  A
mismatch names that value by the way to it.
-/

namespace LintBus

open Json (Value)

namespace Json

/-- The entries of all objects in a value stand in the order of their keys, each key once. -/
inductive InKeyOrder : Value → Prop
  | null : InKeyOrder .null
  | boolean (value : Bool) : InKeyOrder (.boolean value)
  | number (value : Number) : InKeyOrder (.number value)
  | string (text : String) : InKeyOrder (.string text)
  | array {items : List Value} (each : ∀ value ∈ items, InKeyOrder value) :
      InKeyOrder (.array items)
  | object {entries : Entries} (ordered : entries.Pairwise fun one other => one.1 < other.1)
      (each : ∀ entry ∈ entries, InKeyOrder entry.2) : InKeyOrder (.object entries)

namespace Entries

private theorem mem_insert {key : String} {value : Value} {entries : Entries}
    {entry : String × Value}
    (found : entry ∈ entries.insert key value) : entry = (key, value) ∨ entry ∈ entries := by
  induction entries with
  | nil => exact .inl (List.mem_singleton.mp found)
  | cons head rest induction =>
      rw [insert] at found
      split at found
      · rcases List.mem_cons.mp found with rfl | found
        · exact .inl rfl
        · exact .inr (List.mem_cons_of_mem _ found)
      · split at found
        · exact List.mem_cons.mp found
        · rcases List.mem_cons.mp found with rfl | found
          · exact .inr List.mem_cons_self
          · exact (induction found).imp_right (List.mem_cons_of_mem _)

private theorem insert_ordered {entries : Entries}
    (ordered : entries.Pairwise fun one other => one.1 < other.1) (key : String) (value : Value) :
    (entries.insert key value).Pairwise fun one other => one.1 < other.1 := by
  induction entries with
  | nil => exact List.pairwise_singleton _ _
  | cons head rest induction =>
      obtain ⟨first, others⟩ := List.pairwise_cons.mp ordered
      rw [insert]
      split
      · next same =>
            exact List.pairwise_cons.mpr ⟨fun entry found => same ▸ first entry found, others⟩
      · next differs =>
          split
          · next before =>
              refine List.pairwise_cons.mpr ⟨fun entry found => ?_, ordered⟩
              rcases List.mem_cons.mp found with rfl | found
              · exact before
              · exact String.lt_trans before (first entry found)
          · next not_before =>
              refine List.pairwise_cons.mpr ⟨fun entry found => ?_, induction others⟩
              rcases mem_insert found with rfl | found
              · exact String.not_le.mp fun least =>
                  differs (String.le_antisymm least (String.not_lt.mp not_before))
              · exact first entry found

end Entries

private theorem inKeyOrder_ofEntries {entries : List (String × Value)}
    (each : ∀ entry ∈ entries, InKeyOrder entry.2) : InKeyOrder (.ofEntries entries) := by
  have kept : ∀ held : Entries, held.Pairwise (fun one other => one.1 < other.1) →
      (∀ entry ∈ held, InKeyOrder entry.2) →
      InKeyOrder
        (.object (entries.foldl (fun held entry => Entries.insert entry.1 entry.2 held) held)) := by
    induction entries with
    | nil => exact fun held ordered each => .object ordered each
    | cons entry rest induction =>
        obtain ⟨first, others⟩ := List.forall_mem_cons.mp each
        intro held ordered held_each
        refine induction others _ (Entries.insert_ordered ordered _ _) fun other found => ?_
        rcases Entries.mem_insert found with rfl | found
        · exact first
        · exact held_each other found
  exact kept [] .nil (by simp)

end Json

namespace Signature

open Json (InKeyOrder)

/-! ## A value and its parts -/

/-- The value has the shape that its type asks for at its own level. -/
def Shaped : Ty → Value → Prop
  | .array _, value => ∃ items, value = .array items
  | .dict key _, value => (key = .string ∨ key = .objectPath) ∧ ∃ entries, value = .object entries
  | .struct fields, value => ∃ items, value = .array items ∧ items.length = fields.length
  | ty, value => Conforms (fun _ _ => True) ty value

/-- A part of a value: the step that leads to it and the type that it should be of. -/
structure Part where
  step : Step
  ty : Ty
  value : Value

/-- The parts of a value that is of the shape of a type, from left to right. -/
def parts : Ty → Value → List Part
  | .array item, .array items => items.zipIdx.map fun held => ⟨.item held.2, item, held.1⟩
  | .dict _ item, .object entries => entries.map fun entry => ⟨.key entry.1, item, entry.2⟩
  | .struct fields, .array items =>
      (fields.zip items).zipIdx.map fun held => ⟨.field held.2, held.1.1, held.1.2⟩
  | _, _ => []

/-- Steps down from a value of a type lead to a value of a type. -/
inductive Leads : List Step → Ty → Value → Ty → Value → Prop
  | here (ty : Ty) (value : Value) : Leads [] ty value ty value
  | down {ty target : Ty} {value reached : Value} {steps : List Step} {part : Part}
      (found : part ∈ parts ty value) (rest : Leads steps part.ty part.value target reached) :
      Leads (part.step :: steps) ty value target reached

/-- A step leads to an earlier part than another: items and fields are in the order of their
indices, entries in the order of their keys. -/
def Step.Before : Step → Step → Prop
  | .item index, .item other => index < other
  | .field index, .field other => index < other
  | .key name, .key other => name < other
  | _, _ => False

/-- Check parts from left to right up to the first that does not fit. -/
def checkParts (access : Access) : List Part → Except Mismatch Unit
  | [] => .ok ()
  | part :: rest =>
      match checkTy (access.push part.step) part.ty part.value with
      | .error mismatch => .error mismatch
      | .ok () => checkParts access rest

/-! ## The check looks at a level and then at the parts -/

private theorem checkEach_eq_checkParts {α : Type} (part : Nat → α → Part) (access : Access)
    (values : List α) (start : Nat) :
    checkEach
        (fun index value =>
          checkTy (access.push (part index value).step) (part index value).ty
            (part index value).value)
        start values =
      checkParts access ((values.zipIdx start).map fun held => part held.2 held.1) := by
  induction values generalizing start with
  | nil => rfl
  | cons value rest induction =>
      rw [List.zipIdx_cons, List.map_cons, checkParts, ← induction]
      rfl

private theorem checkFields_eq_checkParts (access : Access) (fields : List Ty) (items : List Value)
    (start : Nat) :
    checkFields access start fields items =
      checkParts access
        (((fields.zip items).zipIdx start).map fun held =>
          ⟨.field held.2, held.1.1, held.1.2⟩) := by
  induction fields generalizing items start with
  | nil => simp [checkFields, checkParts]
  | cons field fields induction =>
      cases items with
      | nil => simp [checkFields, checkParts]
      | cons item items =>
          rw [List.zip_cons_cons, List.zipIdx_cons, List.map_cons, checkParts, ← induction]
          rfl

private theorem isKeyType_iff {key : Ty} :
    isKeyType key = true ↔ key = .string ∨ key = .objectPath := by
  refine ⟨textual_of_isKeyType, ?_⟩
  rintro (rfl | rfl)
  · rfl
  · rfl

/-- A value with the right shape is checked part by part. -/
theorem checkTy_shaped {ty : Ty} {value : Value} (shaped : Shaped ty value) (access : Access) :
    checkTy access ty value = checkParts access (parts ty value) := by
  cases ty with
  | array item =>
      obtain ⟨items, rfl⟩ := shaped
      rw [checkTy, parts]
      exact checkEach_eq_checkParts (fun index value => ⟨.item index, item, value⟩) access items 0
  | dict key item =>
      obtain ⟨textual, entries, rfl⟩ := shaped
      rw [checkTy, if_pos (isKeyType_iff.mpr textual), parts]
      have unnumbered : entries.zipIdx.map (fun held => (⟨.key held.1.1, item, held.1.2⟩ : Part)) =
          entries.map fun entry => ⟨.key entry.1, item, entry.2⟩ := by
        conv_rhs => rw [← List.zipIdx_map_fst 0 entries, List.map_map]
        rfl
      rw [← unnumbered]
      exact checkEach_eq_checkParts (fun _ entry => ⟨.key entry.1, item, entry.2⟩) access entries 0
  | struct fields =>
      obtain ⟨items, rfl, length_eq⟩ := shaped
      rw [checkTy, if_pos length_eq, checkFields_eq_checkParts, parts]
  | _ =>
      rw [parts]
      · exact Conforms.fits shaped access
      all_goals simp

private theorem checkTy_misshaped {ty : Ty} {value : Value} (misshaped : ¬ Shaped ty value)
    (access : Access) : checkTy access ty value = .error ⟨ty, value.kind, access⟩ := by
  unfold checkTy
  split
  · next item items => exact absurd ⟨items, rfl⟩ misshaped
  · next key item entries =>
      rw [if_neg fun keyed => misshaped ⟨isKeyType_iff.mp keyed, entries, rfl⟩]
      rfl
  · next fields items =>
      rw [if_neg fun length_eq => misshaped ⟨items, rfl, length_eq⟩]
      rfl
  · next not_array not_object not_struct =>
      refine if_neg fun fits => misshaped ?_
      cases ty with
      | array item => simp [fitsSimple] at fits
      | dict key item => simp [fitsSimple] at fits
      | struct fields => simp [fitsSimple] at fits
      | _ => exact conforms_of_fitsSimple fits

private theorem Fits.shaped {ty : Ty} {value : Value} (fits : Fits ty value) : Shaped ty value := by
  by_contra misshaped
  have refused := checkTy_misshaped misshaped ⟨0, []⟩
  rw [fits] at refused
  simp at refused

private theorem checkParts_error {access : Access} {row : List Part} {mismatch : Mismatch}
    (refused : checkParts access row = .error mismatch) :
    ∃ before part after, row = before ++ part :: after ∧
      checkTy (access.push part.step) part.ty part.value = .error mismatch ∧
      ∀ earlier ∈ before, Fits earlier.ty earlier.value := by
  induction row with
  | nil => simp [checkParts] at refused
  | cons first rest induction =>
      rw [checkParts] at refused
      split at refused
      · next found refused_first =>
          obtain rfl := Except.error.inj refused
          exact ⟨[], first, rest, rfl, refused_first, by simp⟩
      · next passed =>
          obtain ⟨before, part, after, rfl, refused_part, fit⟩ := induction refused
          have first_fits : Fits first.ty first.value := (conforms_of_checkTy passed).fits
          exact ⟨first :: before, part, after, rfl, refused_part,
            List.forall_mem_cons.mpr ⟨first_fits, fit⟩⟩

private theorem fits_of_checkParts {access : Access} {row : List Part}
    (passed : checkParts access row = .ok ()) : ∀ part ∈ row, Fits part.ty part.value := by
  induction row with
  | nil => simp
  | cons first rest induction =>
      rw [checkParts] at passed
      split at passed
      · simp at passed
      · next passed_first =>
          exact List.forall_mem_cons.mpr
            ⟨(conforms_of_checkTy passed_first).fits, induction passed⟩

private theorem Fits.leads {steps : List Step} {ty target : Ty} {value reached : Value}
    (fits : Fits ty value) (leads : Leads steps ty value target reached) :
    Fits target reached := by
  induction leads with
  | here ty value => exact fits
  | down found rest induction =>
      have passed := (checkTy_shaped fits.shaped ⟨0, []⟩).symm.trans (fits _)
      exact induction (fits_of_checkParts passed _ found)

/-! ## The order of the parts -/

private theorem Step.Before.asymm {one other : Step} (before : one.Before other) :
    ¬ other.Before one := by
  cases one with
  | item index =>
      cases other with
      | item another => exact Nat.lt_asymm before
      | _ => exact before.elim
  | field index =>
      cases other with
      | field another => exact Nat.lt_asymm before
      | _ => exact before.elim
  | key name =>
      cases other with
      | key another => exact fun after => String.lt_irrefl _ (String.lt_trans before after)
      | _ => exact before.elim

private theorem Step.Before.irrefl (step : Step) :
    ¬ step.Before step := fun before => before.asymm before

private theorem pairwise_zipIdx {α : Type} (values : List α) :
    values.zipIdx.Pairwise fun one other => one.2 < other.2 := by
  have indices : (values.zipIdx.map Prod.snd).Pairwise (· < ·) := by
    rw [List.zipIdx_map_snd]
    exact List.pairwise_lt_range'
  exact List.pairwise_map.mp indices

private theorem parts_before {value : Value} (ordered : InKeyOrder value) (ty : Ty) :
    (parts ty value).Pairwise fun one other => one.step.Before other.step := by
  unfold parts
  split
  · next item items => exact List.pairwise_map.mpr (pairwise_zipIdx items)
  · next key item entries =>
      cases ordered with
      | object ordered each => exact List.pairwise_map.mpr ordered
  · next fields items => exact List.pairwise_map.mpr (pairwise_zipIdx (fields.zip items))
  · exact .nil

/-- The parts of a value are parts of it, and their types are parts of its type. -/
theorem parts_smaller {ty : Ty} {value : Value} {part : Part} (found : part ∈ parts ty value) :
    sizeOf part.ty < sizeOf ty ∧ (InKeyOrder value → InKeyOrder part.value) := by
  unfold parts at found
  split at found
  · next item items =>
      obtain ⟨⟨held, index⟩, held_mem, rfl⟩ := List.mem_map.mp found
      refine ⟨by simp, fun ordered => ?_⟩
      cases ordered with
      | array each => exact each held (List.fst_mem_of_mem_zipIdx held_mem)
  · next key item entries =>
      obtain ⟨entry, entry_mem, rfl⟩ := List.mem_map.mp found
      refine ⟨by simp only [Ty.dict.sizeOf_spec]; omega, fun ordered => ?_⟩
      cases ordered with
      | object ordered each => exact each entry entry_mem
  · next fields items =>
      obtain ⟨⟨⟨field, held⟩, index⟩, held_mem, rfl⟩ := List.mem_map.mp found
      obtain ⟨field_mem, item_mem⟩ := List.of_mem_zip (List.fst_mem_of_mem_zipIdx held_mem)
      have smaller : sizeOf field < sizeOf fields := List.sizeOf_lt_of_mem field_mem
      refine ⟨by simp only [Ty.struct.sizeOf_spec]; omega, fun ordered => ?_⟩
      cases ordered with
      | array each => exact each held item_mem
  · simp at found

/-- Where parts follow one another, those before a part are the earlier ones, and no two parts are
on the same step. -/
theorem row_before {before after : List Part} {part other : Part}
    (ordered : (before ++ part :: after).Pairwise fun one other => one.step.Before other.step)
    (found : other ∈ before ++ part :: after) :
    (other.step.Before part.step → other ∈ before) ∧ (other.step = part.step → other = part) := by
  rw [List.pairwise_append, List.pairwise_cons] at ordered
  obtain ⟨-, ⟨part_before, -⟩, before_part⟩ := ordered
  rw [List.mem_append, List.mem_cons] at found
  rcases found with found | rfl | found
  · have earlier := before_part other found part List.mem_cons_self
    exact ⟨fun _ => found, fun same => absurd (same ▸ earlier) (Step.Before.irrefl _)⟩
  · exact ⟨fun precedes => absurd precedes (Step.Before.irrefl _), fun _ => rfl⟩
  · have later := part_before other found
    exact ⟨fun precedes => absurd later precedes.asymm,
      fun same => absurd (same ▸ later) (Step.Before.irrefl _)⟩

/-! ## The offender -/

/-- One access comes before another: earlier values of a body come first, then containers come
before their parts and the parts in their order. -/
def Access.Before (access other : Access) : Prop :=
  access.index < other.index ∨
    access.index = other.index ∧ List.Lex Step.Before access.steps other.steps

/-- An access leads to a container of what another one leads to, or to the same value. -/
def Access.Contains (access other : Access) : Prop :=
  access.index = other.index ∧ access.steps <+: other.steps

/-- A body leads on an access to a value, which is checked against a type. -/
def Reaches (signature : Signature) (body : List Value) (access : Access) (ty : Ty)
    (value : Value) : Prop :=
  ∃ declared held, signature.types[access.index]? = some declared ∧
    body[access.index]? = some held ∧ Leads access.steps declared held ty value

/-- In a value that does not fit, the mismatch is at the first part, containers before their parts,
that is of the wrong shape. -/
theorem checkTy_error {access : Access} {ty : Ty} {value : Value} {mismatch : Mismatch}
    (refused : checkTy access ty value = .error mismatch) :
    ∃ steps reached, mismatch.access = { access with steps := access.steps ++ steps } ∧
      Leads steps ty value mismatch.expected reached ∧ reached.kind = mismatch.found ∧
      ¬ Shaped mismatch.expected reached ∧
      (InKeyOrder value → ∀ {earlier target visited}, Leads earlier ty value target visited →
        List.Lex Step.Before earlier steps →
        Shaped target visited ∧ (¬ earlier <+: steps → Fits target visited)) := by
  by_cases shaped : Shaped ty value
  · rw [checkTy_shaped shaped] at refused
    obtain ⟨before, part, after, row_eq, refused_part, fit⟩ := checkParts_error refused
    have found : part ∈ parts ty value := by simp [row_eq]
    have smaller := (parts_smaller found).1
    obtain ⟨steps, reached, access_eq, leads, kind_eq, misshaped, visited⟩ :=
      checkTy_error refused_part
    refine ⟨part.step :: steps, reached, ?_, .down found leads, kind_eq, misshaped, ?_⟩
    · simp [access_eq, Access.push]
    · intro ordered earlier target visit leads_earlier precedes
      have row_order := parts_before ordered ty
      rw [row_eq] at row_order
      cases leads_earlier with
      | here => exact ⟨shaped, fun apart => absurd List.nil_prefix apart⟩
      | @down _ _ _ _ _ other found_other rest =>
          obtain ⟨in_front, same_part⟩ := row_before row_order (row_eq ▸ found_other)
          rcases List.cons_lex_cons_iff.mp precedes with step_before | ⟨step_eq, steps_before⟩
          · have fits : Fits target visit := (fit other (in_front step_before)).leads rest
            exact ⟨fits.shaped, fun _ => fits⟩
          · obtain rfl := same_part step_eq
            obtain ⟨shaped_visit, fits⟩ :=
              visited ((parts_smaller found).2 ordered) rest steps_before
            exact ⟨shaped_visit, fun apart => fits fun inside =>
              apart (List.cons_prefix_cons.mpr ⟨rfl, inside⟩)⟩
  · rw [checkTy_misshaped shaped] at refused
    obtain rfl := Except.error.inj refused
    exact ⟨[], value, by simp, .here ty value, rfl, shaped,
      fun _ _ _ _ _ precedes => absurd precedes List.not_lex_nil⟩
termination_by sizeOf ty

/-- The check of a body ends at its first value that does not fit. -/
theorem checkBody_error {types : List Ty} {body : List Value} {start : Nat} {mismatch : Mismatch}
    (refused : checkBody start types body = .error mismatch) :
    ∃ index declared held, types[index]? = some declared ∧ body[index]? = some held ∧
      checkTy ⟨start + index, []⟩ declared held = .error mismatch ∧
      ∀ {earlier ty value}, earlier < index → types[earlier]? = some ty →
        body[earlier]? = some value → Fits ty value := by
  induction types generalizing body start with
  | nil => simp [checkBody] at refused
  | cons first types induction =>
      cases body with
      | nil => simp [checkBody] at refused
      | cons value body =>
          rw [checkBody] at refused
          split at refused
          · next found refused_first =>
              obtain rfl := Except.error.inj refused
              exact ⟨0, first, value, rfl, rfl, refused_first,
                fun before => absurd before (Nat.not_lt_zero _)⟩
          · next passed =>
              obtain ⟨index, declared, held, ty_at, value_at, refused_held, fit⟩ :=
                induction refused
              refine ⟨index + 1, declared, held, ty_at, value_at, ?_, ?_⟩
              · rwa [Nat.add_right_comm] at refused_held
              · intro earlier ty visited before ty_eq visited_eq
                cases earlier with
                | zero =>
                    obtain rfl := Option.some.inj ty_eq
                    obtain rfl := Option.some.inj visited_eq
                    exact (conforms_of_checkTy passed).fits
                | succ earlier => exact fit (Nat.lt_of_succ_lt_succ before) ty_eq visited_eq

private theorem checkBody_of_check {signature : Signature} {body : List Value} {mismatch : Mismatch}
    (refused : signature.check body = .error (.mismatch mismatch)) :
    checkBody 0 signature.types body = .error mismatch := by
  rw [check] at refused
  split at refused
  · simp at refused
  · split at refused
    · next found refused_body =>
        obtain rfl := BodyError.mismatch.inj (Except.error.inj refused)
        exact refused_body
    · simp at refused

/-- For every signature and every body: the body has a wrong number of values exactly when the check
says so, and then it says which numbers; a body whose values conform, the names of their entries
included, passes; and when the check blames a value, the access leads to a value of the kind that
was found and to the type that was expected there, the value is of the wrong shape at its own level,
and of all values that come before it, those that contain it have the right shape and all others
fit. -/
theorem check_blames (signature : Signature) (body : List Value) :
    (∀ expected found, signature.check body = .error (.arity expected found) ↔
      body.length ≠ signature.types.length ∧ expected = signature.types.length ∧
        found = body.length) ∧
    (List.Forall₂ (Conforms Ty.Names) signature.types body → signature.check body = .ok ()) ∧
    ∀ fault, signature.check body = .error (.mismatch fault) →
      ∃ value, Reaches signature body fault.access fault.expected value ∧
        value.kind = fault.found ∧ ¬ Shaped fault.expected value ∧
        (BodyError.mismatch fault).message =
          s!"expected `{fault.expected.text}` at {fault.access.text}, found {value.kind.text}" ∧
        ((∀ held ∈ body, InKeyOrder held) → ∀ access ty visited,
          Reaches signature body access ty visited → access.Before fault.access →
          Shaped ty visited ∧ (¬ access.Contains fault.access → Fits ty visited)) := by
  refine ⟨fun expected found => ?_, fun conforms => ?_, fun mismatch refused => ?_⟩
  · rw [check]
    split
    · next differs => simp [differs, eq_comm]
    · next same =>
        refine ⟨fun outcome => ?_, fun wrong => absurd wrong.1 same⟩
        split at outcome
        · simp at outcome
        · simp at outcome
  · exact check_eq_ok.mpr (conforms.imp fun _ _ => Conforms.fits)
  · obtain ⟨index, declared, held, ty_at, value_at, refused_held, fit⟩ :=
      checkBody_error (checkBody_of_check refused)
    obtain ⟨steps, value, access_eq, leads, kind_eq, misshaped, visits⟩ :=
      checkTy_error refused_held
    simp only [Nat.zero_add, List.nil_append] at access_eq
    refine ⟨value, ⟨declared, held, ?_, ?_, ?_⟩, kind_eq, misshaped, by rw [kind_eq]; rfl, ?_⟩
    · simpa [access_eq] using ty_at
    · simpa [access_eq] using value_at
    · simpa [access_eq] using leads
    · intro ordered access ty visited
        ⟨before_ty, before_value, before_ty_at, before_at, reaches⟩ before
      simp only [Access.Before, Access.Contains, access_eq] at before ⊢
      rcases before with index_lt | ⟨index_eq, steps_before⟩
      · have fits : Fits ty visited := (fit index_lt before_ty_at before_at).leads reaches
        exact ⟨fits.shaped, fun _ => fits⟩
      · rw [index_eq, ty_at] at before_ty_at
        rw [index_eq, value_at] at before_at
        obtain rfl := Option.some.inj before_ty_at
        obtain rfl := Option.some.inj before_at
        obtain ⟨shaped, fits⟩ :=
          visits (ordered held (List.mem_of_getElem? value_at)) reaches steps_before
        exact ⟨shaped, fun apart => fits fun inside => apart ⟨index_eq, inside⟩⟩

/-- A body with an array of locations by name: the second field of the second location is blamed,
and the array under the name before it fits. -/
theorem check_blames_nested :
    let body : List Value :=
      [.ofInt 7,
        .ofEntries
          [("b", .array [.array [.ofInt 1, .ofInt 2], .array [.ofInt 3, .string "x"]]),
            ("a", .array [])]]
    ∃ signature mismatch value, parse "ya\x7bsa(xx)\x7d" = .ok signature ∧
      signature.check body = .error (.mismatch mismatch) ∧ mismatch.access.text = "$1.b[1].1" ∧
      Reaches signature body mismatch.access .int64 value ∧ ¬ Shaped .int64 value ∧
      Fits (.array (.struct [.int64, .int64])) (.array []) := by
  intro body
  let signature : Signature :=
    ⟨"ya\x7bsa(xx)\x7d", [.byte, .dict .string (.array (.struct [.int64, .int64]))]⟩
  let mismatch : Mismatch := ⟨.int64, .string, ⟨1, [.key "b", .item 1, .field 1]⟩⟩
  have refused : signature.check body = .error (.mismatch mismatch) := by rfl
  have ordered : ∀ held ∈ body, InKeyOrder held := by
    have pair : ∀ one other : Value, InKeyOrder one → InKeyOrder other →
        InKeyOrder (.array [one, other]) := fun one other left right =>
      .array (List.forall_mem_cons.mpr ⟨left, List.forall_mem_singleton.mpr right⟩)
    refine List.forall_mem_cons.mpr ⟨.number _, List.forall_mem_singleton.mpr ?_⟩
    refine Json.inKeyOrder_ofEntries
      (List.forall_mem_cons.mpr ⟨?_, List.forall_mem_singleton.mpr ?_⟩)
    · exact pair _ _ (pair _ _ (.number _) (.number _)) (pair _ _ (.number _) (.string _))
    · exact .array (by simp)
  obtain ⟨value, reaches, -, misshaped, -, visits⟩ :=
    (check_blames signature body).2.2 mismatch refused
  have before : Access.Before ⟨1, [.key "a"]⟩ mismatch.access :=
    .inr ⟨rfl, .rel (by decide : "a" < "b")⟩
  have reached : Reaches signature body ⟨1, [.key "a"]⟩ (.array (.struct [.int64, .int64]))
      (.array []) := by
    have first : Part.mk (.key "a") (.array (.struct [.int64, .int64])) (.array []) ∈
        parts (.dict .string (.array (.struct [.int64, .int64])))
          (.ofEntries
            [("b", .array [.array [.ofInt 1, .ofInt 2], .array [.ofInt 3, .string "x"]]),
              ("a", .array [])]) := .head _
    exact ⟨_, _, rfl, rfl, .down first (.here _ _)⟩
  obtain ⟨-, fits⟩ := visits ordered _ _ _ reached before
  exact ⟨signature, mismatch, value, by rfl, refused, by decide +kernel, reaches, misshaped,
    fits (by rintro ⟨-, inside⟩; simp [mismatch] at inside)⟩

end Signature
end LintBus
