import LintBus.Proofs.Bus.Introspection
import LintBus.Proofs.Service.Agreement

/-!
# The surface of a service

Which methods can be called at which paths follows from the capabilities of the backend and from
the open documents.  Routing a call and describing an object are two readings of the same exports,
so an object lists exactly the methods that can be called on it.
-/

namespace LintBus

namespace Method

private theorem mem_ofInterface {interface : Interface} {method : Method} :
    method ∈ ofInterface interface ↔ method ∈ all ∧ method.interface = interface := by
  simp [ofInterface, List.mem_filter]

private theorem interface_ne_document : ∀ method ∈ all, method.interface ≠ .document := by
  decide

end Method

namespace Offer

variable {capabilities : List Capability} {interface : Interface}

theorem mem_service :
    interface ∈ (ofCapabilities capabilities).service ↔
      interface = .service ∨
        interface = .project ∧ .project ∈ capabilities ∧ .diagnostics ∈ capabilities := by
  simp only [ofCapabilities, List.mem_cons]
  split
  · next declared => simp_all
  · next missing => simp_all

private theorem mem_document :
    interface ∈ (ofCapabilities capabilities).document ↔
      interface = .document ∨ interface = .diagnostics ∧ .diagnostics ∈ capabilities := by
  simp only [ofCapabilities, List.mem_cons]
  split
  · next declared => simp_all
  · next missing => simp_all

end Offer

namespace Service

variable {ω σ : Type}

section Descriptions

variable {service : Service ω σ} {roster : Roster ω σ} {call : Call}

private theorem listed_iff_routed (call : Call) (interface member : String) :
    (interface, member) ∈ Introspection.listed
        (Introspection.xml (roster.around.bus.interfaces call.path)) ↔
      ∃ method, Routed roster { call with interface := interface, member := member } method := by
  simp only [Introspection.listed_xml, List.mem_flatMap, List.mem_map, Method.mem_ofInterface,
    Prod.mk.injEq, routed_iff]
  constructor
  · rintro ⟨shown, shown_mem, method, ⟨listed, rfl⟩, named, member_eq⟩
    exact ⟨method, listed, named, member_eq, shown_mem⟩
  · rintro ⟨method, listed, named, member_eq, shown_mem⟩
    exact ⟨method.interface, shown_mem, method, ⟨listed, rfl⟩, named, member_eq⟩

/-- An object is described by the interfaces that are exported at its path. -/
theorem answer_described (named : call.interface = introspectable)
    (member_eq : call.member = "Introspect")
    (exported : roster.around.bus.interfaces call.path ≠ []) :
    service.answer roster call =
      (.ok [.string (Introspection.xml (roster.around.bus.interfaces call.path))], roster) := by
  simp only [answer, if_pos named, describe, member_eq, ne_eq, not_true_eq_false, if_false]

theorem answer_undescribed (named : call.interface = introspectable)
    (member_eq : call.member = "Introspect")
    (absent : roster.around.bus.interfaces call.path = []) :
    service.answer roster call = (.error (.ofCallError (.unknownObject call.path)), roster) := by
  simp only [answer, if_pos named, describe, member_eq, ne_eq, not_true_eq_false, if_false, absent]

end Descriptions

section Objects

variable {backend : Backend ω σ} {baseDirectory : FilePath} {roster : Roster ω σ}

private theorem Agrees.mem_interfaces (agrees : (ofBackend backend baseDirectory).Agrees roster)
    {path : String} {interface : Interface} :
    interface ∈ roster.around.bus.interfaces path ↔
      path = (backend.addressing baseDirectory).serviceObject ∧
          interface ∈ backend.offer.service ∨
        (path = (backend.addressing baseDirectory).placeholderObject ∨
            ∃ document ∈ roster.documents, path = document.object) ∧
          interface ∈ backend.offer.document := by
  rw [Bus.interfaces, Exports.mem_interfaces, agrees, or_and_right]
  refine or_congr Iff.rfl (or_congr Iff.rfl ?_)
  constructor
  · rintro ⟨handle, ⟨session, session_mem, held⟩, path_eq, listed⟩
    obtain ⟨document, document_mem, rfl⟩ := Documents.mem_handles.mp held
    exact ⟨⟨document, Roster.mem_documents.mpr ⟨session, session_mem, document_mem⟩, path_eq⟩,
      listed⟩
  · rintro ⟨⟨document, open_in, path_eq⟩, listed⟩
    exact ⟨document.handle, Roster.holds_of_mem_documents open_in, path_eq, listed⟩

private theorem Agrees.interfaces_ne_nil (agrees : (ofBackend backend baseDirectory).Agrees roster)
    (path : String) :
    roster.around.bus.interfaces path ≠ [] ↔
      path = (backend.addressing baseDirectory).serviceObject ∨
        path = (backend.addressing baseDirectory).placeholderObject ∨
        ∃ document ∈ roster.documents, path = document.object := by
  constructor
  · intro exported
    obtain ⟨interface, listed⟩ := List.exists_mem_of_ne_nil _ exported
    rcases agrees.mem_interfaces.mp listed with ⟨path_eq, -⟩ | ⟨path_eq, -⟩
    · exact .inl path_eq
    · exact .inr path_eq
  · rintro (path_eq | path_eq)
    · have offered : .service ∈ backend.offer.service := Offer.mem_service.mpr (.inl rfl)
      exact List.ne_nil_of_mem (agrees.mem_interfaces.mpr (.inl ⟨path_eq, offered⟩))
    · have offered : .document ∈ backend.offer.document := Offer.mem_document.mpr (.inl rfl)
      exact List.ne_nil_of_mem (agrees.mem_interfaces.mpr (.inr ⟨path_eq, offered⟩))

/-- Where a method can be called. -/
theorem Agrees.routed_iff (agrees : (ofBackend backend baseDirectory).Agrees roster)
    {call : Call} {method : Method} :
    Routed roster call method ↔
      method ∈ Method.all ∧ method.interface.name = call.interface ∧
        method.member = call.member ∧
        (call.path = (backend.addressing baseDirectory).serviceObject ∧
            method.interface = .service ∨
          call.path = (backend.addressing baseDirectory).serviceObject ∧
            method.interface = .project ∧
            .project ∈ backend.capabilities ∧ .diagnostics ∈ backend.capabilities ∨
          (call.path = (backend.addressing baseDirectory).placeholderObject ∨
              ∃ document ∈ roster.documents, call.path = document.object) ∧
            method.interface = .diagnostics ∧ .diagnostics ∈ backend.capabilities) := by
  rw [Service.routed_iff]
  refine and_congr_right fun listed => and_congr_right fun _ => and_congr_right fun _ => ?_
  have methodless := Method.interface_ne_document method listed
  rw [agrees.mem_interfaces, Backend.offer, Offer.mem_service, Offer.mem_document, and_or_left,
    or_assoc, or_iff_right methodless]

end Objects

/-- In every course from a successful start a call is routed exactly to the methods that are
declared for the object at its path: those of the service there, those of projects there if the
backend declares projects and diagnostics, and those of diagnostics at the placeholder and at open
documents if it declares diagnostics.  Exactly these objects can be described, and the description
lists exactly the methods that calls at the path are routed to. -/
theorem course_surface {backend : Backend ω σ} {baseDirectory : FilePath} {roster : Roster ω σ}
    (begins : (ofBackend backend baseDirectory).Begins roster)
    (occurrences : List (Occurrence ω)) :
    let service := ofBackend backend baseDirectory
    let addressing := service.addressing
    let after := service.course occurrences roster
    let shown := fun path => path = addressing.placeholderObject ∨
      ∃ document ∈ after.documents, path = document.object
    (∀ call method, Routed after call method ↔
      method ∈ Method.all ∧ method.interface.name = call.interface ∧
        method.member = call.member ∧
        (call.path = addressing.serviceObject ∧ method.interface = .service ∨
          call.path = addressing.serviceObject ∧ method.interface = .project ∧
            .project ∈ backend.capabilities ∧ .diagnostics ∈ backend.capabilities ∨
          shown call.path ∧ method.interface = .diagnostics ∧
            .diagnostics ∈ backend.capabilities)) ∧
    (∀ call, call.interface ≠ introspectable → (∀ method, ¬ Routed after call method) →
      ∃ error, service.answer after call = (.error (.ofCallError error), after) ∧
        (error = .unknownObject call.path ∨
          error = .unknownInterface call.path call.interface ∨
          error = .unknownMethod call.interface call.member)) ∧
    ∀ call, call.interface = introspectable → call.member = "Introspect" →
      ((∃ body, (service.answer after call).1 = .ok body) ↔
        call.path = addressing.serviceObject ∨ shown call.path) ∧
      ∀ body, (service.answer after call).1 = .ok body →
        ∃ text, body = [.string text] ∧ ∀ interface member,
          (interface, member) ∈ Introspection.listed text ↔
            ∃ method,
              Routed after { call with interface := interface, member := member } method := by
  intro service addressing after shown
  obtain ⟨orderly, agrees⟩ := begins.sound
  have agrees : service.Agrees after := (course_sound orderly agrees occurrences).2
  refine ⟨fun call method => agrees.routed_iff, fun call apart unrouted => ?_,
    fun call named member_eq => ?_⟩
  · cases resolved : resolve after call with
    | ok method => exact absurd ⟨apart, resolved⟩ (unrouted method)
    | error error =>
        refine ⟨error, ?_, resolve_error resolved⟩
        simp only [answer, if_neg apart, resolved]
  · have standing := agrees.interfaces_ne_nil call.path
    by_cases exported : after.around.bus.interfaces call.path = []
    · have answered : (service.answer after call).1 = .error _ :=
        congrArg Prod.fst (answer_undescribed named member_eq exported)
      rw [answered]
      refine ⟨⟨by simp, fun stands => absurd exported (standing.mpr stands)⟩, by simp⟩
    · have answered : (service.answer after call).1 = .ok _ :=
        congrArg Prod.fst (answer_described named member_eq exported)
      rw [answered]
      refine ⟨⟨fun _ => standing.mp exported, fun _ => ⟨_, rfl⟩⟩, fun body body_eq => ?_⟩
      exact ⟨_, (Except.ok.inj body_eq).symm, listed_iff_routed call⟩

end Service

theorem Service.course_surface_opened :
    let after := Rehearsal.service.course [.event (Rehearsal.parse ":1.7" "a.css")]
      Rehearsal.roster
    Rehearsal.service.Begins Rehearsal.roster ∧
      ∃ document ∈ after.documents,
        (∀ sender, Routed after
          ⟨sender, document.object, "org.gnome.CodeAssist.v1.Diagnostics", "Diagnostics", []⟩
            .diagnostics) ∧
        ∀ sender method, ¬ Routed after
          ⟨sender, document.object, "org.gnome.CodeAssist.v1.Project", "ParseAll", []⟩
            method := by
  intro after
  have routed_at := (course_surface Rehearsal.begins
    [.event (Rehearsal.parse ":1.7" "a.css")]).1
  have diagnostics_name :
      Interface.diagnostics.name = "org.gnome.CodeAssist.v1.Diagnostics" := by decide +kernel
  have opened : after.documents.map Document.object =
      ["/org/gnome/CodeAssist/v1/css/0/documents/0"] := by decide +kernel
  obtain ⟨document, held, object_eq⟩ := List.mem_map.mp (opened ▸ List.mem_singleton_self _)
  refine ⟨Rehearsal.begins, document, held, fun sender => ?_, fun sender method routed => ?_⟩
  · exact (routed_at _ _).mpr ⟨by decide, diagnostics_name, rfl,
      .inr (.inr ⟨.inr ⟨document, held, rfl⟩, rfl, by decide⟩)⟩
  · obtain ⟨-, named, -, ⟨path_eq, -⟩ | ⟨path_eq, -⟩ | ⟨-, interface_eq, -⟩⟩ :=
      (routed_at _ _).mp routed
    · exact absurd (object_eq.symm.trans path_eq) (by decide +kernel)
    · exact absurd (object_eq.symm.trans path_eq) (by decide +kernel)
    · rw [interface_eq, diagnostics_name] at named
      simp at named

/-- Projects can be parsed at any time. -/
theorem Rehearsal.parseAll_routed (occurrences : List (Occurrence Stage)) (sender root : String)
    (members : List String) (script : Json.Entries) :
    Service.Routed (service.course occurrences roster) (parseAll sender root members script)
      .parseAll := by
  obtain ⟨orderly, agrees⟩ := begins.sound
  have agrees := (Service.course_sound orderly agrees occurrences).2
  have named : Interface.project.name = "org.gnome.CodeAssist.v1.Project" := by decide +kernel
  have path_eq : "/org/gnome/CodeAssist/v1/css" = (backend.addressing directory).serviceObject := by
    decide +kernel
  exact agrees.routed_iff.mpr
    ⟨by decide, named, rfl, .inr (.inl ⟨path_eq, rfl, by decide, by decide⟩)⟩

end LintBus
