import LintBus.Proofs.Service.Disposal

/-!
# Tearing down a session

A session goes away when its client leaves, and also when all its documents are disposed of one by
one.  Both ways leave the same sessions, the same exports and the same count, and the backend hears
of the same documents.
-/

namespace LintBus

variable {ω σ τ : Type} {service : Service ω σ} {roster : Roster ω σ} {identity : String}

namespace Service

/-- A client disposes of documents at some paths, one after the other. -/
def disposals (service : Service ω σ) (sender : String) (paths : List String) :
    List (Occurrence ω) :=
  paths.map fun path => .event (.call (service.addressing.disposal sender path))

private theorem strikes_disposals {view : σ → τ} (keeps : service.backend.Keeps view)
    (inOrder : roster.InOrder service) (identity : String) (paths : List String) :
    roster.Strikes service view
      (fun client document => paths.any fun path =>
        Roster.named service.addressing identity path client document)
      (service.course (service.disposals identity paths) roster) := by
  induction paths generalizing roster with
  | nil => exact .of_untouched inOrder.occupied fun _ _ _ => rfl
  | cons path rest induction =>
      have first := Roster.strikes_closeDocument keeps inOrder identity path
      have others := induction (inOrder.closeDocument identity path)
      rw [disposals, List.map_cons, course_cons, react, handle_disposal inOrder]
      exact first.trans others

private theorem session?_disposals (inOrder : roster.InOrder service) (paths : List String)
    {client : String} (different : client ≠ identity) :
    (service.course (service.disposals identity paths) roster).session? client =
      roster.session? client := by
  induction paths generalizing roster with
  | nil => rfl
  | cons path rest induction =>
      have kept := (Roster.moves_closeDocument inOrder.orderly identity path).frame different
      have others := induction (inOrder.closeDocument identity path)
      rw [disposals, List.map_cons, course_cons, react, handle_disposal inOrder]
      exact others.trans kept

/-- In every course from a successful start the session of a client goes away with all its documents
disposed of, in whatever order and under whatever spelling, just as it does when the client leaves
the bus: the sessions, the number of the next one, the count, the bus and the released documents are
the same, and they are the same for every order in which the documents of a client that leaves are
released.  The spellings that the client has used first will do.  Nobody leaves under an empty
name. -/
theorem course_teardown (begins : service.Begins roster) (occurrences : List (Occurrence ω))
    (nonempty : identity ≠ "") {paths : List String}
    (listed : ∀ document ∈ (service.course occurrences roster).documentsOf identity,
      ∃ path ∈ paths, document.path.same (service.addressing.canonical path) = true) :
    let before := service.course occurrences roster
    let closed := service.course (service.disposals identity paths) before
    let lost := service.react before (.event (.ownerChanged (.departure identity)))
    (∀ document ∈ before.documentsOf identity,
      document.path.same (service.addressing.canonical document.spelling) = true) ∧
    closed.session? identity = none ∧
    (∀ client, closed.session? client = lost.session? client) ∧
    closed.nextId = lost.nextId ∧ closed.emptied = lost.emptied ∧
    closed.around.bus = lost.around.bus ∧
    closed.around.released.Perm lost.around.released ∧
    ∀ session, before.session? identity = some session →
      ∀ order : List Document, order.Perm session.documents →
        let released := (Session.releaseAll service.backend service.addressing order session
          before.around).2
        released.bus = closed.around.bus ∧ released.released.Perm closed.around.released := by
  intro before closed lost
  have inOrder : before.InOrder service := course_inOrder begins.inOrder occurrences
  have lost_eq : lost = before.dismiss service identity :=
    handle_departed (OwnerChange.departed?_departure nonempty)
  have lost_order : lost.InOrder service := lost_eq ▸ inOrder.dismiss identity
  have keeps : service.backend.Keeps fun _ => () := fun _ _ _ => rfl
  -- Both ways strike off the same documents, those of the client.
  have same_gone : ∀ client, ∀ document ∈ before.documentsOf client,
      (paths.any fun path => Roster.named service.addressing identity path client document) =
        Roster.owned identity client document := by
    intro client document held
    by_cases same : client = identity
    · subst same
      obtain ⟨path, path_mem, path_same⟩ := listed document held
      have struck : paths.any (fun path =>
          Roster.named service.addressing client path client document) = true :=
        List.any_eq_true.mpr ⟨path, path_mem, by simp [Roster.named, path_same]⟩
      rw [struck, Roster.owned, beq_self_eq_true]
    · have other : (client == identity) = false := by simpa using same
      simp [Roster.named, Roster.owned, other]
  have coincides : Roster.Coincides (fun _ => ()) closed lost :=
    (strikes_disposals keeps inOrder identity paths).coincides
      (lost_eq ▸ Roster.strikes_dismiss _ inOrder identity)
      (course_inOrder inOrder _) lost_order same_gone
  have lost_gone : lost.session? identity = none := by
    rw [lost_eq, Roster.session?_dismiss, if_pos rfl]
  have closed_gone : closed.session? identity = none := by
    have unseen := coincides.sessions identity
    rw [Roster.seen, Roster.seen, lost_gone] at unseen
    exact Option.map_eq_none_iff.mp unseen
  refine ⟨fun document held => ?_, closed_gone, fun client => ?_, coincides.nextId_eq,
    coincides.emptied_eq, coincides.bus_eq, coincides.released,
    fun session found order permuted => ?_⟩
  · obtain ⟨session, found, held⟩ := Roster.mem_documentsOf.mp held
    have session_orderly := inOrder.orderly.sessions session (Roster.session?_some found).1
    have spelled : service.addressing.canonical document.spelling = document.path :=
      session_orderly.spelled document.handle (Documents.handle_mem held)
    rw [spelled, FilePath.same_refl]
  · by_cases same : client = identity
    · rw [same, closed_gone, lost_gone]
    · rw [session?_disposals inOrder paths same, lost_eq, Roster.session?_dismiss, if_neg same]
  · obtain ⟨bus_eq, released⟩ := Session.releaseAll_perm permuted service.backend
      service.addressing session before.around
    rw [← Roster.dismiss_around found, ← lost_eq] at bus_eq released
    exact ⟨bus_eq.trans coincides.bus_eq.symm, released.trans coincides.released.symm⟩

/-- A client with two documents disposes of the second one first. -/
theorem course_teardown_trapped :
    let before := Rehearsal.service.course (Rehearsal.trapped.take 3) Rehearsal.roster
    let paths := ["b.css", "./a.css"]
    let closed := Rehearsal.service.course (Rehearsal.service.disposals ":1.7" paths) before
    let lost := Rehearsal.service.react before (.event (.ownerChanged (.departure ":1.7")))
    Rehearsal.service.Begins Rehearsal.roster ∧ ":1.7" ≠ "" ∧
      (before.documentsOf ":1.7").map Document.spelling = ["a.css", "b.css"] ∧
      (∀ document ∈ before.documentsOf ":1.7", ∃ path ∈ paths,
        document.path.same (Rehearsal.service.addressing.canonical path) = true) ∧
      closed.session? ":1.7" = none ∧ closed.emptied = lost.emptied ∧
      closed.around.bus = lost.around.bus ∧
      closed.around.released.Perm lost.around.released := by
  obtain ⟨spelled, listed⟩ :
      ((Rehearsal.service.course (Rehearsal.trapped.take 3) Rehearsal.roster).documentsOf
        ":1.7").map Document.spelling = ["a.css", "b.css"] ∧
      ∀ document ∈ (Rehearsal.service.course (Rehearsal.trapped.take 3)
        Rehearsal.roster).documentsOf ":1.7", ∃ path ∈ ["b.css", "./a.css"],
          document.path.same (Rehearsal.service.addressing.canonical path) = true := by
    decide +kernel
  obtain ⟨-, gone, -, -, emptied_eq, bus_eq, released, -⟩ :=
    course_teardown Rehearsal.begins (Rehearsal.trapped.take 3) (by decide) listed
  exact ⟨Rehearsal.begins, by decide, spelled, listed, gone, emptied_eq, bus_eq, released⟩

/-- A client with an empty name loses its session when it disposes of its document, but not when
that name loses its owner. -/
theorem teardown_of_nobody :
    let before := Rehearsal.service.course [.event (Rehearsal.parse "" "a.css")] Rehearsal.roster
    let closed := Rehearsal.service.course (Rehearsal.service.disposals "" ["a.css"]) before
    let lost := Rehearsal.service.react before (.event (Rehearsal.leave ""))
    Rehearsal.service.Begins Rehearsal.roster ∧
      (before.documentsOf "").map Document.spelling = ["a.css"] ∧
      closed.contains "" = false ∧ closed.emptied = 1 ∧
      lost.contains "" = true ∧ lost.emptied = 0 ∧
      ¬ closed.around.released.Perm lost.around.released := by
  exact ⟨Rehearsal.begins, by decide +kernel⟩

end Service
end LintBus
