import LintBus.Proofs.Service.Course

/-!
# Agreement of the bus with the open documents

Which interfaces are exported at a path depends on nothing but the open documents: whatever
exports a gate refuses, whichever handlers fail or panic and however documents go away, the bus
shows the service, the placeholder and the open documents, and nothing else.
-/

namespace LintBus

private theorem Offer.service_ordered (capabilities : List Capability) :
    (Offer.ofCapabilities capabilities).service.Pairwise (·.rank < ·.rank) := by
  simp only [Offer.ofCapabilities]
  split <;> simp [Interface.rank]

private theorem Offer.document_ordered (capabilities : List Capability) :
    (Offer.ofCapabilities capabilities).document.Pairwise (·.rank < ·.rank) := by
  simp only [Offer.ofCapabilities]
  split <;> simp [Interface.rank]

private theorem Offer.document_ne_nil (capabilities : List Capability) :
    (Offer.ofCapabilities capabilities).document ≠ [] := by
  simp [Offer.ofCapabilities]

namespace Service

variable {ω σ : Type}

section Agrees

variable {backend : Backend ω σ} {baseDirectory : FilePath} {roster : Roster ω σ}

private theorem Agrees.interfaces_serviceObject
    (agrees : (ofBackend backend baseDirectory).Agrees roster)
    (orderly : roster.Orderly (backend.addressing baseDirectory)) :
    roster.around.bus.interfaces (backend.addressing baseDirectory).serviceObject =
      backend.offer.service :=
  Exports.interfaces_eq (Offer.service_ordered _) (agrees.mem_serviceObject orderly)

private theorem Agrees.interfaces_placeholderObject
    (agrees : (ofBackend backend baseDirectory).Agrees roster)
    (orderly : roster.Orderly (backend.addressing baseDirectory)) :
    roster.around.bus.interfaces (backend.addressing baseDirectory).placeholderObject =
      backend.offer.document :=
  Exports.interfaces_eq (Offer.document_ordered _) (agrees.mem_placeholderObject orderly)

private theorem Agrees.interfaces_object (agrees : (ofBackend backend baseDirectory).Agrees roster)
    (orderly : roster.Orderly (backend.addressing baseDirectory)) {handle : Handle}
    (holds : roster.Holds handle) :
    roster.around.bus.interfaces handle.object = backend.offer.document :=
  Exports.interfaces_eq (Offer.document_ordered _) (agrees.mem_object orderly holds)

end Agrees

/-- In every course from a successful start the bus exports what the service offers at its own
path and at the placeholder, the interfaces of documents at each open document, and nothing at
any other path.  A pair of numbers leads to an object exactly if it belongs to an open document. -/
theorem course_exports {backend : Backend ω σ} {baseDirectory : FilePath} {roster : Roster ω σ}
    (begins : (ofBackend backend baseDirectory).Begins roster)
    (occurrences : List (Occurrence ω)) :
    let service := ofBackend backend baseDirectory
    let addressing := service.addressing
    let after := service.course occurrences roster
    let exported := after.around.bus.interfaces
    exported addressing.serviceObject = backend.offer.service ∧
    exported addressing.placeholderObject = backend.offer.document ∧
    (∀ session ∈ after.sessions, ∀ document ∈ session.documents,
      exported document.object = backend.offer.document) ∧
    (∀ path, path ≠ addressing.serviceObject → path ≠ addressing.placeholderObject →
      (∀ session ∈ after.sessions, ∀ document ∈ session.documents, path ≠ document.object) →
      exported path = []) ∧
    ∀ number id, exported (addressing.documentObject number id) ≠ [] ↔
      ∃ session ∈ after.sessions, session.id = number ∧
        ∃ document ∈ session.documents, document.id = id := by
  intro service addressing after exported
  obtain ⟨orderly, agrees⟩ := begins.sound
  obtain ⟨orderly, agrees⟩ := course_sound orderly agrees occurrences
  refine ⟨agrees.interfaces_serviceObject orderly, agrees.interfaces_placeholderObject orderly,
    ?_, ?_, ?_⟩
  · intro session session_mem document document_mem
    have holds := Roster.holds_document session_mem document_mem
    exact agrees.interfaces_object orderly holds
  · intro path not_service not_placeholder not_document
    by_contra shown
    rcases agrees.exported shown with
      same | same | ⟨handle, ⟨session, session_mem, held⟩, same⟩
    · exact not_service same
    · exact not_placeholder same
    · obtain ⟨document, document_mem, rfl⟩ := Documents.mem_handles.mp held
      exact not_document session session_mem document document_mem same
  · intro number id
    constructor
    · intro shown
      rcases agrees.exported shown with
        same | same | ⟨handle, ⟨session, session_mem, held⟩, same⟩
      · exact absurd same (Addressing.documentObject_ne_serviceObject _ _ _)
      · exact absurd same (Addressing.documentObject_ne_placeholderObject _ _ _)
      · rw [(orderly.sessions session session_mem).objects handle held,
          Addressing.documentObject_inj] at same
        obtain ⟨document, document_mem, rfl⟩ := Documents.mem_handles.mp held
        exact ⟨session, session_mem, same.1.symm, document, document_mem, same.2.symm⟩
    · rintro ⟨session, session_mem, rfl, document, document_mem, rfl⟩
      have holds := Roster.holds_document session_mem document_mem
      have shown : exported document.object = backend.offer.document :=
        agrees.interfaces_object orderly holds
      rw [(orderly.sessions session session_mem).object_eq document_mem] at shown
      rw [shown]
      exact Offer.document_ne_nil _

end Service

/-- The document of one client is exported, that of another is refused. -/
def Rehearsal.refusal : List (Occurrence Stage) :=
  [.event (Rehearsal.parse ":1.7" "a.css"), .gate fun _ _ => some (.io "refused"),
    .event (Rehearsal.parse ":1.8" "a.css")]

theorem Service.course_exports_refusal :
    let service := ofBackend Rehearsal.backend Rehearsal.directory
    let exported := (service.course Rehearsal.refusal Rehearsal.roster).around.bus.interfaces
    service.Begins Rehearsal.roster ∧
      exported (service.addressing.documentObject 0 0) ≠ [] ∧
      exported (service.addressing.documentObject 1 0) = [] := by
  have reachable := (course_exports Rehearsal.begins Rehearsal.refusal).2.2.2.2
  refine ⟨Rehearsal.begins, (reachable 0 0).mpr ?_, ?_⟩
  · decide +kernel
  · refine not_not.mp fun shown => absurd ((reachable 1 0).mp shown) ?_
    decide +kernel

end LintBus
