import LintBus.Proofs.Client.Moves

/-!
# Releases

The backend is asked to release a document when it is closed and when its client is dismissed, and
by nothing else that a service does for a client.  In which order the documents of a client are
released makes no difference to the bus.
-/

namespace LintBus

variable {ω σ : Type}

namespace Backend

private theorem informed_append (backend : Backend ω σ) (left right : List Document) :
    backend.informed (left ++ right) = backend.informed left ++ backend.informed right := by
  simp only [informed]
  split <;> simp

theorem mem_informed {backend : Backend ω σ} {documents : List Document} {document : Document} :
    document ∈ backend.informed documents ↔
      backend.dispose.isSome = true ∧ document ∈ documents := by
  simp only [informed]
  split
  · next heard => simp [heard]
  · next unheard => simp [unheard]

private theorem informed_perm (backend : Backend ω σ) {left right : List Document}
    (permuted : left.Perm right) : (backend.informed left).Perm (backend.informed right) := by
  simp only [informed]
  split
  · exact permuted
  · exact .refl _

end Backend

namespace Session

private theorem releaseAll_released (backend : Backend ω σ) (addressing : Addressing)
    (documents : List Document) (session : Session σ) (around : Surroundings ω) :
    (releaseAll backend addressing documents session around).2.released =
      backend.informed documents.reverse ++ around.released := by
  induction documents generalizing session around with
  | nil => simp [releaseAll, Backend.informed]
  | cons document rest induction =>
      rw [releaseAll_cons, induction, release_released, List.reverse_cons,
        Backend.informed_append, List.append_assoc]

private theorem releaseAll_gate (backend : Backend ω σ) (addressing : Addressing)
    (documents : List Document) (session : Session σ) (around : Surroundings ω) :
    (releaseAll backend addressing documents session around).2.bus.gate = around.bus.gate := by
  induction documents generalizing session around with
  | nil => rfl
  | cons document rest induction =>
      rw [releaseAll_cons, induction, release_bus, Bus.retractAll_gate]

theorem mem_releaseAll (backend : Backend ω σ) (addressing : Addressing)
    (documents : List Document) (session : Session σ) (around : Surroundings ω)
    (pair : String × Interface) :
    pair ∈ (releaseAll backend addressing documents session around).2.bus.exports.pairs ↔
      pair ∈ around.bus.exports.pairs ∧
        ∀ document ∈ documents, ¬ (pair.1 = document.object ∧ pair.2 ∈ addressing.interfaces) := by
  induction documents generalizing session around with
  | nil => simp [releaseAll]
  | cons document rest induction =>
      rw [releaseAll_cons, induction, release_bus, Bus.mem_retractAll, and_assoc,
        List.forall_mem_cons]

/-- Whatever the order in which documents are released, the bus is the same in the end, and the
backend hears of the same documents. -/
theorem releaseAll_perm {left right : List Document} (permuted : left.Perm right)
    (backend : Backend ω σ) (addressing : Addressing) (session : Session σ)
    (around : Surroundings ω) :
    (releaseAll backend addressing left session around).2.bus =
        (releaseAll backend addressing right session around).2.bus ∧
      (releaseAll backend addressing left session around).2.released.Perm
        (releaseAll backend addressing right session around).2.released := by
  constructor
  · have gates := (releaseAll_gate backend addressing left session around).trans
      (releaseAll_gate backend addressing right session around).symm
    exact Bus.ext_mem gates fun pair => by simp only [mem_releaseAll, permuted.mem_iff]
  · rw [releaseAll_released, releaseAll_released]
    have reversed : left.reverse.Perm right.reverse :=
      left.reverse_perm.trans (permuted.trans right.reverse_perm.symm)
    exact (backend.informed_perm reversed).append_right _

end Session

namespace Roster

variable {service : Service ω σ} {roster : Roster ω σ} {identity : String}

theorem sessionFor_around (service : Service ω σ) (roster : Roster ω σ) (identity : String) :
    (roster.sessionFor service identity).2.around = roster.around := by
  rw [sessionFor]
  split <;> rfl

theorem openDocument_released (service : Service ω σ) (roster : Roster ω σ)
    (identity path contents : String) (cursor : Location) :
    (roster.openDocument service identity path contents cursor).2.around.released =
      roster.around.released := by
  have kept := congrArg Surroundings.released (sessionFor_around service roster identity)
  simp only [openDocument]
  split
  · exact kept
  · dsimp only
    split
    · exact kept
    · exact kept

theorem openMembers_released (service : Service ω σ) (roster : Roster ω σ) (identity : String)
    (members : List (String × String)) :
    (roster.openMembers service identity members).2.around.released = roster.around.released := by
  induction members generalizing roster with
  | nil => rfl
  | cons member rest induction =>
      obtain ⟨path, contents⟩ := member
      have first := openDocument_released service roster identity path contents .origin
      simp only [openMembers]
      split
      · next outcome =>
          rw [outcome] at first
          exact first
      · next after outcome =>
          rw [outcome] at first
          have others := induction after
          split
          all_goals
            next outcome =>
              rw [outcome] at others
              exact others.trans first

theorem parse_released (service : Service ω σ) (roster : Roster ω σ) (identity : String)
    (path : FilePath) (options : Options) :
    (roster.parse service identity path options).2.around.released = roster.around.released := by
  simp only [parse]
  split <;> rfl

theorem parseAll_released (service : Service ω σ) (roster : Roster ω σ) (identity : String)
    (root : FilePath) (members : List FilePath) (options : Options) :
    (roster.parseAll service identity root members options).2.around.released =
      roster.around.released := by
  simp only [parseAll]
  split <;> rfl

theorem dismiss_around {session : Session σ} (found : roster.session? identity = some session) :
    (roster.dismiss service identity).around =
      (Session.releaseAll service.backend service.addressing session.documents session
        roster.around).2 := by
  simp [dismiss, found, Session.closeAll, eraseSession]

theorem sessions_dismiss (service : Service ω σ) (roster : Roster ω σ) (identity : String) :
    (roster.dismiss service identity).sessions = (roster.eraseSession identity).sessions := by
  cases found : roster.session? identity with
  | none =>
      rw [dismiss_none found]
      have absent := session?_none.mp found
      exact (List.filter_eq_self.mpr fun session held => by simp [absent session held]).symm
  | some session =>
      simp only [dismiss, found]

theorem session?_dismiss (service : Service ω σ) (roster : Roster ω σ)
    (identity other : String) :
    (roster.dismiss service identity).session? other =
      if other = identity then none else roster.session? other := by
  rw [← session?_eraseSession, session?, sessions_dismiss]
  rfl

/-- The backend is asked to release all documents of the client and no others. -/
theorem dismiss_released (service : Service ω σ) (roster : Roster ω σ) (identity : String) :
    (roster.dismiss service identity).around.released =
      service.backend.informed (roster.documentsOf identity).reverse ++
        roster.around.released := by
  rw [documentsOf]
  cases found : roster.session? identity with
  | none => simp [dismiss_none found, Backend.informed]
  | some session => rw [dismiss_around found, Session.releaseAll_released, Option.elim_some]

/-- What is closed is released, whether or not the session goes away with it. -/
theorem closeDocument_around {session : Session σ} {path : String} {document : Document}
    (found : roster.session? identity = some session)
    (held : session.documents.find? (service.addressing.canonical path) = some document) :
    (roster.closeDocument service identity path).around =
      (session.release service.backend service.addressing roster.around document).2 := by
  simp only [closeDocument, closeOnly_open found held]
  split
  · next empty =>
      obtain ⟨-, rfl⟩ := session?_some found
      have found_closed := session?_close service found document session.identity
      rw [if_pos rfl] at found_closed
      rw [dismiss_around found_closed, List.isEmpty_iff.mp empty]
      rfl
  · rfl

/-- The backend is asked to release at most one document of the client, and no others. -/
theorem closeDocument_released (service : Service ω σ) (roster : Roster ω σ)
    (identity path : String) :
    ∃ gone, (roster.closeDocument service identity path).around.released =
        service.backend.informed gone ++ roster.around.released ∧
      gone.length ≤ 1 ∧ ∀ document ∈ gone, document ∈ roster.documentsOf identity := by
  cases found : roster.session? identity with
  | none =>
      refine ⟨[], ?_, by simp, by simp⟩
      simp [closeDocument, closeOnly_none found, Backend.informed]
  | some session =>
      cases held : session.documents.find? (service.addressing.canonical path) with
      | none =>
          refine ⟨[], ?_, by simp, by simp⟩
          simp [closeDocument, closeOnly_missing found held, Backend.informed]
      | some document =>
          have open_in : document ∈ roster.documentsOf identity :=
            mem_documentsOf.mpr ⟨session, found, (Documents.find?_some held).1⟩
          refine ⟨[document], ?_, by simp, by simpa using open_in⟩
          rw [closeDocument_around found held, Session.release_released]

end Roster
end LintBus
