import LintBus.Proofs.Client.Mirror
import LintBus.Proofs.Client.Occupancy
import LintBus.Proofs.Client.Reopening

/-!
# Closing one document

Closing a document takes away that document with its exports, and the session with its last
document.  Closing a path at which nothing is open changes nothing, so closing twice is closing
once.
-/

namespace LintBus

variable {ω σ : Type}

namespace Documents

private theorem erase_eq_filter {documents : Documents} (distinct : Distinct documents.handles)
    {document : Document} (held : document ∈ documents) :
    documents.erase document.path = documents.filter (· != document) := by
  refine List.filter_congr fun other other_mem => ?_
  rw [bne, Bool.not_inj_iff, Bool.eq_iff_iff, beq_iff_eq]
  constructor
  · exact eq_of_same distinct other_mem held
  · rintro rfl
    exact other.path.same_refl

private theorem filter_eq_nil {documents : Documents} (nodup : documents.Nodup)
    {document : Document}
    (held : document ∈ documents) :
    documents.filter (· != document) = [] ↔ documents = [document] := by
  rw [← nodup.erase_eq_filter, List.erase_eq_nil_iff, or_iff_right (List.ne_nil_of_mem held)]

private theorem find?_erase (documents : Documents) (path : FilePath) :
    (documents.erase path).find? path = none :=
  find?_none.mpr fun _ kept => (mem_erase.mp kept).2

end Documents

namespace Session

private theorem Orderly.documents_nodup {addressing : Addressing} {session : Session σ}
    (orderly : session.Orderly addressing) : session.documents.Nodup :=
  (orderly.numbers.of_map _).of_map _

private theorem find?_closing (session : Session σ) (backend : Backend ω σ) (world : ω)
    (path : FilePath) :
    (session.closing backend world path).bind (·.documents.find? path) = none := by
  simp only [closing]
  split
  · next missing => exact missing
  · next document held =>
      split
      · rfl
      · have kept_eq : session.documents.erase document.path = session.documents.erase path :=
          Documents.erase_congr (Documents.find?_some held).2
        simp only [Option.bind_some, forget, kept_eq]
        exact Documents.find?_erase session.documents path

end Session

namespace Roster

variable {service : Service ω σ} {roster before after : Roster ω σ} {identity path : String}
  {session : Session σ} {document : Document}

/-- The document of a client at a path in any spelling. -/
def documentAt? (service : Service ω σ) (roster : Roster ω σ) (identity path : String) :
    Option Document :=
  (roster.session? identity).bind (·.documents.find? (service.addressing.canonical path))

theorem dismiss_nextId (service : Service ω σ) (roster : Roster ω σ) (identity : String) :
    (roster.dismiss service identity).nextId = roster.nextId := by
  simp only [dismiss]
  split <;> rfl

/-- Closing a path at which nothing is open changes nothing. -/
theorem closeDocument_absent (identities : (roster.sessions.map Session.identity).Nodup)
    (absent : roster.documentAt? service identity path = none) :
    roster.closeDocument service identity path = roster := by
  simp only [closeDocument]
  cases found : roster.session? identity with
  | none => rw [closeOnly_none found]
  | some session =>
      rw [documentAt?, found, Option.bind_some] at absent
      rw [closeOnly_missing found absent, setSession_self identities (session?_some found).1]

private theorem documentAt?_closeDocument (service : Service ω σ) (roster : Roster ω σ)
    (identity path : String) :
    (roster.closeDocument service identity path).documentAt? service identity path = none := by
  rw [documentAt?, session?_closeDocument, Option.bind_assoc, Option.bind_eq_none_iff]
  exact fun session _ => session.find?_closing _ _ _

/-- Closing a document twice is closing it once. -/
theorem closeDocument_again (orderly : roster.Orderly service.addressing)
    (identity path : String) :
    (roster.closeDocument service identity path).closeDocument service identity path =
      roster.closeDocument service identity path :=
  closeDocument_absent ((moves_closeDocument orderly identity path).orderly orderly).identities
    (documentAt?_closeDocument service roster identity path)

theorem closeDocument_nextId (found : roster.session? identity = some session)
    (held : session.documents.find? (service.addressing.canonical path) = some document) :
    (roster.closeDocument service identity path).nextId = roster.nextId := by
  simp only [closeDocument, closeOnly_open found held]
  split
  · exact dismiss_nextId ..
  · rfl

/-- One roster comes from another by closing a document of a session and by nothing else. -/
structure Closes (service : Service ω σ) (session : Session σ) (document : Document)
    (before after : Roster ω σ) : Prop where
  /-- The session has gone away with its last document, or has kept all but the document. -/
  remaining : after.session? session.identity =
    if session.documents = [document] then none
    else some
      { session with
        state := service.backend.stateAfterRelease before.around.world session.state document
        documents := session.documents.filter (· != document) }
  /-- Other clients have what they had. -/
  others : ∀ client, client ≠ session.identity → after.session? client = before.session? client
  nextId_eq : after.nextId = before.nextId
  /-- It is counted whether it was the last session. -/
  emptied_eq : after.emptied = before.emptied + if after.sessions = [] then 1 else 0
  /-- Nothing is exported at the document any more, and elsewhere what was exported. -/
  interfaces : ∀ object, after.around.bus.interfaces object =
    if object = document.object then [] else before.around.bus.interfaces object
  gate_eq : after.around.bus.gate = before.around.bus.gate
  /-- The backend has been asked to release the document. -/
  released : after.around.released =
    service.backend.informed [document] ++ before.around.released

theorem closes_closeDocument (orderly : roster.Orderly service.addressing)
    (agrees : service.Agrees roster)
    (found : roster.session? session.identity = some session)
    (held : session.documents.find? (service.addressing.canonical path) = some document) :
    Closes service session document roster
      (roster.closeDocument service session.identity path) := by
  have session_mem := (session?_some found).1
  have document_mem := (Documents.find?_some held).1
  have session_orderly := orderly.sessions session session_mem
  have moves := moves_closeDocument orderly session.identity path
  have around_eq := closeDocument_around found held
  have shown : ∀ interface,
      (document.object, interface) ∈ roster.around.bus.exports.pairs ↔
        interface ∈ service.addressing.interfaces :=
    agrees.mem_object orderly (holds_document session_mem document_mem)
  constructor
  · have only_one :=
      Documents.filter_eq_nil session_orderly.documents_nodup document_mem
    have kept_eq := Documents.erase_eq_filter session_orderly.distinct document_mem
    simp only [session?_closeDocument, found, Option.bind_some, Session.closing, held,
      Session.forget, kept_eq, List.isEmpty_iff, only_one]
  · exact fun client different => moves.frame different
  · exact closeDocument_nextId found held
  · have peopled : roster.sessions ≠ [] := List.ne_nil_of_mem session_mem
    rw [(tallies_closeDocument service roster session.identity path).emptied_eq]
    simp only [vacates_iff, ne_eq, peopled, not_false_eq_true, true_and]
  · intro object
    rw [around_eq, Session.release_bus]
    split
    · next same =>
        refine Exports.interfaces_eq .nil fun interface => ?_
        rw [Bus.mem_retractAll, same]
        simpa using (shown interface).mp
    · next different =>
        refine Exports.interfaces_congr fun interface => ?_
        simp [different]
  · exact moves.gate_eq
  · rw [around_eq, Session.release_released]

end Roster
end LintBus
