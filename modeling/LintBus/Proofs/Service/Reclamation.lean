import LintBus.Proofs.Client.Ledger
import LintBus.Proofs.Service.Course

/-!
# Reclamation of documents

In every course the backend is asked once to release each document that is no longer open, and
never to release one that still is or that never was.  How the backend fares with it makes no
difference.  When a client leaves, all its documents are released and nobody else's.
-/

namespace LintBus

namespace Service

variable {ω σ : Type} {service : Service ω σ} {roster : Roster ω σ}

private theorem parse_released (service : Service ω σ) (roster : Roster ω σ) (sender : String)
    (request : ParseRequest) :
    (service.parse roster sender request).2.around.released = roster.around.released := by
  have opening := roster.openDocument_released service sender request.path request.contents
    request.cursor
  rw [parse]
  split
  · next outcome =>
      rw [outcome] at opening
      exact opening
  · next canonical opened outcome =>
      rw [outcome] at opening
      have parsing := opened.parse_released service sender canonical request.options
      split
      all_goals
        next outcome =>
          rw [outcome] at parsing
          exact parsing.trans opening

private theorem parseAll_released (service : Service ω σ) (roster : Roster ω σ) (sender : String)
    (request : ParseAllRequest) :
    (service.parseAll roster sender request).2.around.released = roster.around.released := by
  have opening := roster.openDocument_released service sender request.path "" request.cursor
  rw [parseAll]
  split
  · next outcome =>
      rw [outcome] at opening
      exact opening
  · next root opened outcome =>
      rw [outcome] at opening
      have joining := opened.openMembers_released service sender request.members
      split
      · next outcome =>
          rw [outcome] at joining
          exact joining.trans opening
      · next members joined outcome =>
          rw [outcome] at joining
          have parsing := joined.parseAll_released service sender root members request.options
          split
          all_goals
            next outcome =>
              rw [outcome] at parsing
              exact parsing.trans (joining.trans opening)

/-- Answering a call releases at most one document, and that of the caller. -/
theorem answer_released (service : Service ω σ) (roster : Roster ω σ) (call : Call) :
    ∃ gone, (service.answer roster call).2.around.released =
        service.backend.informed gone ++ roster.around.released ∧
      gone.length ≤ 1 ∧ ∀ document ∈ gone, document ∈ roster.documentsOf call.sender := by
  have nothing : roster.around.released =
      service.backend.informed [] ++ roster.around.released := by
    simp [Backend.informed]
  cases found : job? roster call with
  | none =>
      rw [answer_idle found]
      exact ⟨[], nothing, by simp, by simp⟩
  | some job =>
      obtain ⟨method, -, -, answered⟩ := answer_job service found
      rw [answered]
      cases job with
      | parse request =>
          exact ⟨[], (parse_released service roster call.sender request).trans nothing,
            by simp, by simp⟩
      | close document => exact roster.closeDocument_released service call.sender document
      | parseAll request =>
          exact ⟨[], (parseAll_released service roster call.sender request).trans nothing,
            by simp, by simp⟩
      | diagnostics => exact ⟨[], nothing, by simp, by simp⟩

/-- An occurrence releases only documents that are open. -/
theorem react_released (service : Service ω σ) (roster : Roster ω σ)
    (occurrence : Occurrence ω) :
    ∃ gone, (service.react roster occurrence).around.released =
        service.backend.informed gone ++ roster.around.released ∧
      ∀ document ∈ gone, document ∈ roster.documents := by
  cases occurrence with
  | event event =>
      cases event with
      | call call =>
          obtain ⟨gone, released, -, held⟩ := answer_released service roster call
          exact ⟨gone, released, fun document found =>
            roster.documentsOf_subset call.sender (held document found)⟩
      | ownerChanged change =>
          cases departed : change.departed? with
          | none =>
              refine ⟨[], ?_, by simp⟩
              rw [react, handle_idle (by simpa [Event.client?] using departed)]
              simp [Backend.informed]
          | some identity =>
              refine ⟨(roster.documentsOf identity).reverse, ?_, fun document found => ?_⟩
              · rw [react, handle_departed departed, Roster.dismiss_released]
              · exact roster.documentsOf_subset identity (List.mem_reverse.mp found)
  | gate gate => exact ⟨[], by simp [react, Roster.setBus, Backend.informed], by simp⟩
  | world world => exact ⟨[], by simp [react, Roster.setWorld, Backend.informed], by simp⟩

private theorem course_released_open (service : Service ω σ) (occurrences : List (Occurrence ω))
    (roster : Roster ω σ) {document : Document}
    (released : document ∈ (service.course occurrences roster).around.released) :
    document ∈ roster.around.released ∨ ∃ earlier later, occurrences = earlier ++ later ∧
      document ∈ (service.course earlier roster).documents := by
  induction occurrences generalizing roster with
  | nil => exact .inl released
  | cons occurrence rest induction =>
      rcases induction (service.react roster occurrence) released with
        found | ⟨earlier, later, rfl, held⟩
      · obtain ⟨gone, released_eq, held⟩ := react_released service roster occurrence
        rw [released_eq, List.mem_append, Backend.mem_informed] at found
        rcases found with ⟨-, found⟩ | found
        · exact .inr ⟨[], occurrence :: rest, rfl, held document found⟩
        · exact .inl found
      · exact .inr ⟨occurrence :: earlier, later, rfl, held⟩

private theorem react_accounts (orderly : roster.Orderly service.addressing)
    (agrees : service.Agrees roster) (accounts : roster.Accounts service)
    (occurrence : Occurrence ω) :
    (service.react roster occurrence).Accounts service ∧
      Roster.Settles service (service.react roster occurrence) roster := by
  cases occurrence with
  | event event =>
      rw [react]
      cases client : event.client? with
      | none =>
          rw [handle_idle client]
          exact ⟨accounts, .refl service roster⟩
      | some identity => exact (moves_handle orderly agrees client).accounts orderly agrees accounts
  | gate gate =>
      exact ⟨⟨accounts.unheard, accounts.once, accounts.issued, accounts.gone⟩,
        ⟨fun _ released => released, fun _ _ holds => .inl holds⟩⟩
  | world world =>
      exact ⟨⟨accounts.unheard, accounts.once, accounts.issued, accounts.gone⟩,
        ⟨fun _ released => released, fun _ _ holds => .inl holds⟩⟩

theorem course_accounts (orderly : roster.Orderly service.addressing)
    (agrees : service.Agrees roster) (accounts : roster.Accounts service)
    (occurrences : List (Occurrence ω)) :
    (service.course occurrences roster).Accounts service ∧
      Roster.Settles service (service.course occurrences roster) roster := by
  induction occurrences generalizing roster with
  | nil => exact ⟨accounts, .refl service roster⟩
  | cons occurrence rest induction =>
      obtain ⟨accounts, settles⟩ := react_accounts orderly agrees accounts occurrence
      obtain ⟨orderly, agrees⟩ := react_sound orderly agrees occurrence
      obtain ⟨accounts, settled⟩ := induction orderly agrees accounts
      exact ⟨accounts, settled.trans settles⟩

theorem Begins.accounts (begins : service.Begins roster) : roster.Accounts service := by
  obtain ⟨gate, bus, world, -, rfl⟩ := begins
  exact Roster.opened_accounts service bus world

/-- When a client leaves, nothing stays exported at the object paths of its documents. -/
theorem departed_interfaces (orderly : roster.Orderly service.addressing)
    (agrees : service.Agrees roster) {change : OwnerChange} {identity : String}
    (departed : change.departed? = some identity) {document : Document}
    (held : document ∈ roster.documentsOf identity) :
    (service.react roster (.event (.ownerChanged change))).around.bus.interfaces
      document.object = [] := by
  obtain ⟨after_orderly, after_agrees⟩ :=
    react_sound orderly agrees (.event (.ownerChanged change))
  obtain ⟨session, found, held⟩ := Roster.mem_documentsOf.mp held
  obtain ⟨session_mem, session_identity⟩ := Roster.session?_some found
  have holds := Roster.holds_document session_mem held
  by_contra shown
  rcases after_agrees.exported shown with
    same | same | ⟨handle, ⟨holder, holder_mem, holder_held⟩, same⟩
  · exact orderly.ne_serviceObject holds same
  · exact orderly.ne_placeholderObject holds same
  · rw [react, handle_departed departed, Roster.sessions_dismiss] at holder_mem
    obtain ⟨holder_mem, elsewhere⟩ := (Roster.mem_eraseSession ..).mp holder_mem
    obtain ⟨rfl, -⟩ :=
      orderly.eq_of_object session_mem holder_mem (Documents.handle_mem held) holder_held same
    exact elsewhere session_identity

/-- In every course from a successful start a document that was open at any time has been released
once if it is no longer open and not at all if it still is, and nothing else has been released.
When a client leaves, its session and the exports of its documents are gone and just its documents
are released, in whatever order; the sessions of others stay.  Nobody leaves under an empty name. -/
theorem course_released (begins : service.Begins roster) (occurrences : List (Occurrence ω)) :
    let after := service.course occurrences roster
    (∀ earlier later, occurrences = earlier ++ later →
      ∀ document ∈ (service.course earlier roster).documents,
        (after.around.released.map Document.object).count document.object =
          if service.backend.dispose.isSome ∧
            document.object ∉ after.documents.map Document.object then 1 else 0) ∧
    (∀ document ∈ after.around.released, ∃ earlier later, occurrences = earlier ++ later ∧
      document ∈ (service.course earlier roster).documents) ∧
    (∀ change identity, change.departed? = some identity →
      let lost := service.react after (.event (.ownerChanged change))
      lost.session? identity = none ∧
      (∀ document ∈ after.documentsOf identity,
        lost.around.bus.interfaces document.object = []) ∧
      lost.around.released =
        service.backend.informed (after.documentsOf identity).reverse ++ after.around.released ∧
      (∀ other, other ≠ identity → lost.session? other = after.session? other) ∧
      ∀ session, after.session? identity = some session →
        ∀ order : List Document, order.Perm session.documents →
          let released := (Session.releaseAll service.backend service.addressing order session
            after.around).2
          released.bus = lost.around.bus ∧ released.released.Perm lost.around.released) ∧
    (∀ identity, identity ≠ "" → (OwnerChange.departure identity).departed? = some identity) ∧
    service.react after (.event (.ownerChanged (.departure ""))) = after := by
  intro after
  obtain ⟨begin_orderly, begin_agrees⟩ := begins.sound
  obtain ⟨orderly, agrees⟩ := course_sound begin_orderly begin_agrees occurrences
  refine ⟨?_, ?_, ?_, fun identity => OwnerChange.departed?_departure, handle_idle rfl⟩
  · rintro earlier later rfl document held
    obtain ⟨first_orderly, first_agrees⟩ := course_sound begin_orderly begin_agrees earlier
    have first_accounts :=
      (course_accounts begin_orderly begin_agrees begins.accounts earlier).1
    obtain ⟨accounts, settles⟩ :=
      course_accounts first_orderly first_agrees first_accounts later
    rw [← course_append] at accounts settles
    exact accounts.count_released settles held
  · intro document released
    rcases course_released_open service occurrences roster released with begun | found
    · obtain ⟨gate, bus, world, -, rfl⟩ := begins
      exact absurd begun List.not_mem_nil
    · exact found
  · intro change identity departed lost
    have lost_eq : lost = after.dismiss service identity := handle_departed departed
    refine ⟨?_, fun document held => departed_interfaces orderly agrees departed held, ?_, ?_, ?_⟩
    · rw [lost_eq, Roster.session?_dismiss, if_pos rfl]
    · rw [lost_eq, Roster.dismiss_released]
    · intro other different
      rw [lost_eq, Roster.session?_dismiss, if_neg different]
    · intro session found order permuted
      rw [lost_eq, Roster.dismiss_around found]
      exact Session.releaseAll_perm permuted _ _ _ _

end Service

/-- A client with two documents leaves, and the release of the first one panics. -/
def Rehearsal.trapped : List (Occurrence Stage) :=
  [.event (Rehearsal.parse ":1.7" "a.css"), .event (Rehearsal.parse ":1.7" "b.css"),
    .world { Scripted.stage ⟨[], []⟩ with traps := [⟨"/work/a.css"⟩] },
    .event (Rehearsal.leave ":1.7")]

theorem Service.course_released_trapped :
    let before := Rehearsal.service.course (Rehearsal.trapped.take 3) Rehearsal.roster
    let after := Rehearsal.service.course Rehearsal.trapped Rehearsal.roster
    Rehearsal.service.Begins Rehearsal.roster ∧
      Rehearsal.trapped = Rehearsal.trapped.take 3 ++ Rehearsal.trapped.drop 3 ∧
      before.documents.length = 2 ∧
      (∀ document ∈ before.documents,
        (after.around.released.map Document.object).count document.object = 1) ∧
      (OwnerChange.departure ":1.7").departed? = some ":1.7" ∧
      (Rehearsal.service.react before (.event (Rehearsal.leave ":1.7"))).session? ":1.7" =
        none := by
  have departing := (course_released Rehearsal.begins (Rehearsal.trapped.take 3)).2.2.1
    (.departure ":1.7") ":1.7" rfl
  refine ⟨Rehearsal.begins, rfl, by decide +kernel, fun document held => ?_, rfl, departing.1⟩
  have once := (course_released Rehearsal.begins Rehearsal.trapped).1
    (Rehearsal.trapped.take 3) (Rehearsal.trapped.drop 3) rfl document held
  have closed : (Rehearsal.service.course Rehearsal.trapped Rehearsal.roster).documents = [] :=
    List.eq_nil_of_length_eq_zero (by decide +kernel)
  rw [once, closed]
  rfl

/-- A client with an empty name keeps its document when that name loses its owner. -/
theorem Service.departure_of_nobody :
    let after := Rehearsal.service.course
      [.event (Rehearsal.parse "" "a.css"), .event (Rehearsal.leave "")] Rehearsal.roster
    Rehearsal.service.Begins Rehearsal.roster ∧
      after.contains "" = true ∧ after.around.released = [] ∧
      after.around.bus.interfaces (Rehearsal.service.addressing.documentObject 0 0) ≠ [] :=
  ⟨Rehearsal.begins, by decide +kernel⟩

end LintBus
