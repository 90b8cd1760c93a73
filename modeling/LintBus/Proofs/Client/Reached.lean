import LintBus.Proofs.Client.Opening
import LintBus.Proofs.File.Canonical

/-!
# Rosters that can be reached

A roster is reached from one without sessions, on a bus that has nothing exported where documents
are going to be, by whatever can be done to a roster, in any order, and by whatever becomes of the
rest of the bus and of the world in between.  Opening a document on a roster that is reached brings
one document and nothing else, or nothing at all.
-/

namespace LintBus

variable {ω σ : Type}

/-- Two buses have the same exports where documents are going to be. -/
def Bus.Matches (addressing : Addressing) (left right : Bus) : Prop :=
  ∀ number id interface,
    (addressing.documentObject number id, interface) ∈ left.exports.pairs ↔
      (addressing.documentObject number id, interface) ∈ right.exports.pairs

namespace Roster

variable {service : Service ω σ} {roster : Roster ω σ}

/-- A roster that can be reached.  The gate of the bus, its exports elsewhere and the world are
anything at any time. -/
inductive Reached (service : Service ω σ) : Roster ω σ → Prop
  | opened {bus : Bus} (clear : bus.Matches service.addressing .empty) (world : ω) :
      Reached service (.opened bus world)
  | setBus {roster : Roster ω σ} (reached : Reached service roster) {bus : Bus}
      (same : bus.Matches service.addressing roster.around.bus) :
      Reached service (roster.setBus bus)
  | setWorld {roster : Roster ω σ} (reached : Reached service roster) (world : ω) :
      Reached service (roster.setWorld world)
  | sessionFor {roster : Roster ω σ} (reached : Reached service roster) (identity : String) :
      Reached service (roster.sessionFor service identity).2
  | openDocument {roster : Roster ω σ} (reached : Reached service roster)
      (identity path contents : String) (cursor : Location) :
      Reached service (roster.openDocument service identity path contents cursor).2
  | parse {roster : Roster ω σ} (reached : Reached service roster) (identity : String)
      (path : FilePath) (options : Options) :
      Reached service (roster.parse service identity path options).2
  | parseAll {roster : Roster ω σ} (reached : Reached service roster) (identity : String)
      (root : FilePath) (members : List FilePath) (options : Options) :
      Reached service (roster.parseAll service identity root members options).2
  | closeOnly {roster : Roster ω σ} (reached : Reached service roster) (identity : String)
      (path : FilePath) :
      Reached service (roster.closeOnly service identity path).2
  | closeDocument {roster : Roster ω σ} (reached : Reached service roster)
      (identity path : String) :
      Reached service (roster.closeDocument service identity path)
  | dismiss {roster : Roster ω σ} (reached : Reached service roster) (identity : String) :
      Reached service (roster.dismiss service identity)

/-- A roster that is reached is orderly and shows its open documents. -/
theorem Reached.sound (reached : roster.Reached service) :
    roster.Orderly service.addressing ∧ roster.Shows service.addressing := by
  induction reached with
  | @opened bus clear world =>
      constructor
      · constructor <;> simp [Roster.opened]
      · intro number id interface
        rw [show (Roster.opened (σ := σ) bus world).around.bus = bus from rfl, clear]
        simp [Bus.empty, Roster.Holds, Roster.opened]
  | @setBus roster _ bus same induction =>
      obtain ⟨orderly, shows⟩ := induction
      refine ⟨⟨orderly.1, orderly.2, orderly.3, orderly.4⟩, fun number id interface => ?_⟩
      exact (same number id interface).trans (shows number id interface)
  | setWorld _ world induction =>
      obtain ⟨orderly, shows⟩ := induction
      exact ⟨⟨orderly.1, orderly.2, orderly.3, orderly.4⟩, shows⟩
  | @sessionFor roster _ identity induction =>
      exact (moves_sessionFor service roster identity).shows induction.1 induction.2
  | openDocument _ identity path contents cursor induction =>
      exact (moves_openDocument induction.1 induction.2 identity path contents cursor).shows
        induction.1 induction.2
  | parse _ identity path options induction =>
      exact (moves_parse induction.1 identity path options).shows induction.1 induction.2
  | @parseAll roster _ identity root members options induction =>
      exact (moves_parseAll service roster identity root members options).shows induction.1
        induction.2
  | @closeOnly roster _ identity path induction =>
      exact (moves_closeOnly service roster identity path).shows induction.1 induction.2
  | closeDocument _ identity path induction =>
      exact (moves_closeDocument induction.1 identity path).shows induction.1 induction.2
  | dismiss _ identity induction =>
      exact (moves_dismiss induction.1 identity).shows induction.1 induction.2

theorem Reached.openEach (reached : roster.Reached service) (identity : String)
    (openings : List Opening) :
    (roster.openEach service identity openings).2.Reached service := by
  induction openings generalizing roster with
  | nil => exact reached
  | cons opening rest induction =>
      have first := reached.openDocument identity opening.path opening.contents opening.cursor
      rw [Roster.openEach]
      split
      · next outcome =>
          rw [outcome] at first
          exact first
      · next outcome =>
          rw [outcome] at first
          exact induction first

end Roster

namespace Session

variable {addressing : Addressing} {session : Session σ}

/-- The document that a client has when it has opened a path: the one that was open there or else a
new one, refreshed with what the call says. -/
def target (session : Session σ) (addressing : Addressing) (path contents : String)
    (cursor : Location) : Document :=
  let canonical := addressing.canonical path
  let fresh := Document.opened session.nextDocument canonical path
    (addressing.documentObject session.id session.nextDocument)
  ((session.documents.find? canonical).getD fresh).refresh (addressing.contentsPath contents) cursor

/-- Open documents are found by the text of their canonical path. -/
theorem Orderly.same_canonical (orderly : session.Orderly addressing) {document : Document}
    (held : document ∈ session.documents) (path : String) :
    document.path.same (addressing.canonical path) = true ↔
      document.path = addressing.canonical path := by
  have spelled : addressing.canonical document.spelling = document.path :=
    orderly.spelled document.handle (Documents.handle_mem held)
  constructor
  · intro same
    rw [← spelled] at same ⊢
    exact FilePath.canonical_eq_of_same same
  · intro path_eq
    rw [path_eq, FilePath.same_refl]

/-- A document that is open keeps all but what the call says. -/
theorem target_of_mem (orderly : session.Orderly addressing) {former : Document}
    (held : former ∈ session.documents) {path : String}
    (path_eq : former.path = addressing.canonical path) (contents : String)
    (cursor : Location) :
    session.target addressing path contents cursor =
      former.refresh (addressing.contentsPath contents) cursor := by
  have same := (orderly.same_canonical held path).mpr path_eq
  rw [target, Documents.find?_eq_some orderly.distinct held same, Option.getD_some]

/-- A document that is not open is new. -/
theorem target_of_absent {path : String}
    (absent : session.documents.find? (addressing.canonical path) = none) (contents : String)
    (cursor : Location) :
    session.target addressing path contents cursor =
      (Document.opened session.nextDocument (addressing.canonical path) path
        (addressing.documentObject session.id session.nextDocument)).refresh
        (addressing.contentsPath contents) cursor := by
  rw [target, absent, Option.getD_none]

theorem target_path (orderly : session.Orderly addressing) (path contents : String)
    (cursor : Location) :
    (session.target addressing path contents cursor).path = addressing.canonical path := by
  cases found : session.documents.find? (addressing.canonical path) with
  | none =>
      rw [target_of_absent found]
      rfl
  | some former =>
      obtain ⟨former_mem, same⟩ := Documents.find?_some found
      have path_eq := (orderly.same_canonical former_mem path).mp same
      rw [target_of_mem orderly former_mem path_eq]
      exact path_eq

/-- Opening a path replaces the document there and leaves all others as they are. -/
theorem mem_opening_iff (orderly : session.Orderly addressing) (path contents : String)
    (cursor : Location) (document : Document) :
    document ∈ (session.opening addressing path contents cursor).documents ↔
      document = session.target addressing path contents cursor ∨
        document ∈ session.documents ∧ document.path ≠ addressing.canonical path := by
  have refreshed : ∀ former ∈ session.documents,
      (former.path.same (addressing.canonical path) = false ↔
        former.path ≠ addressing.canonical path) := fun former former_mem => by
    rw [Ne, ← orderly.same_canonical former_mem path, Bool.not_eq_true]
  simp only [opening, target]
  cases found : session.documents.find? (addressing.canonical path) with
  | some former =>
      obtain ⟨former_mem, same⟩ := Documents.find?_some found
      simp only [Option.isSome_some, if_true, Option.getD_some, refresh, Documents.mem_update]
      constructor
      · rintro ⟨other, other_mem, ⟨other_same, rfl⟩ | ⟨different, rfl⟩⟩
        · have found_other := Documents.find?_eq_some orderly.distinct other_mem other_same
          rw [found, Option.some.injEq] at found_other
          exact .inl (by rw [found_other])
        · exact .inr ⟨other_mem, (refreshed _ other_mem).mp different⟩
      · rintro (rfl | ⟨held, different⟩)
        · exact ⟨former, former_mem, .inl ⟨same, rfl⟩⟩
        · exact ⟨document, held, .inr ⟨(refreshed _ held).mpr different, rfl⟩⟩
  | none =>
      have absent := Documents.find?_none.mp found
      simp only [Option.isSome_none, Bool.false_eq_true, if_false, Option.getD_none, refresh,
        Documents.mem_update, enlist, List.mem_append, List.mem_singleton]
      constructor
      · rintro ⟨other, other_mem | rfl, ⟨same, rfl⟩ | ⟨different, rfl⟩⟩
        · simp [absent other other_mem] at same
        · exact .inr ⟨other_mem, (refreshed _ other_mem).mp different⟩
        · exact .inl rfl
        · simp [Document.opened] at different
      · rintro (rfl | ⟨held, different⟩)
        · exact ⟨_, .inr rfl, .inl ⟨by simp [Document.opened], rfl⟩⟩
        · exact ⟨document, .inl held, .inr ⟨absent document held, rfl⟩⟩

end Session

namespace Roster

variable {service : Service ω σ} {roster after : Roster ω σ} {identity : String}

/-- One roster comes from another by opening a document of a client. -/
structure Opens (service : Service ω σ) (identity : String) (document : Document)
    (before after : Roster ω σ) : Prop where
  /-- The client has this document at its path, and every other one as before. -/
  documents : ∀ other, other ∈ after.documentsOf identity ↔
    other = document ∨ other ∈ before.documentsOf identity ∧ other.path ≠ document.path
  /-- Other clients have what they had. -/
  others : ∀ client, client ≠ identity → after.session? client = before.session? client
  /-- The document shows all interfaces of documents. -/
  shown : ∀ interface, interface ∈ after.around.bus.interfaces document.object ↔
    interface ∈ service.addressing.interfaces
  /-- Every other object shows what it did. -/
  elsewhere : ∀ object, object ≠ document.object →
    after.around.bus.interfaces object = before.around.bus.interfaces object
  /-- Nothing but the exports has changed around the sessions. -/
  around : after.around =
    { before.around with bus := ⟨after.around.bus.exports, before.around.bus.gate⟩ }
  emptied : after.emptied = before.emptied

/-- Opening a document either finds it or exports its interfaces where nothing was. -/
theorem openDocument_adds (orderly : roster.Orderly service.addressing)
    (shows : roster.Shows service.addressing) {path contents : String} {cursor : Location}
    {canonical : FilePath}
    (opened : roster.openDocument service identity path contents cursor =
      (.ok canonical, after)) :
    let session := (roster.sessionFor service identity).1
    (∃ former, session.documents.find? (service.addressing.canonical path) = some former ∧
      after.around = roster.around) ∨
    session.documents.find? (service.addressing.canonical path) = none ∧
      (∀ interface, (service.addressing.documentObject session.id session.nextDocument,
        interface) ∉ roster.around.bus.exports.pairs) ∧
      after.around.bus.Adds roster.around.bus
        (service.addressing.documentObject session.id session.nextDocument)
        service.addressing.interfaces := by
  have given_sound := (moves_sessionFor service roster identity).shows orderly shows
  have found := session?_sessionFor service roster identity
  have around_eq := sessionFor_around service roster identity
  simp only [openDocument] at opened
  generalize roster.sessionFor service identity = given at given_sound found around_eq opened ⊢
  have clear := next_clear given_sound.1 given_sound.2 (session?_some found).1
  rcases Session.openDocument_cases path contents cursor clear with
    ⟨former, former_found, outcome⟩ | ⟨-, error, outcome⟩ | ⟨absent, bus, outcome, adds⟩
  · left
    rw [outcome] at opened
    obtain ⟨-, rfl⟩ := Prod.mk.inj opened
    exact ⟨former, former_found, around_eq⟩
  · rw [outcome] at opened
    simp at opened
  · right
    rw [outcome] at opened
    obtain ⟨-, rfl⟩ := Prod.mk.inj opened
    rw [← around_eq]
    exact ⟨absent, clear, adds⟩

/-- A document that has been opened is there, and nothing else has changed. -/
theorem openDocument_opens (orderly : roster.Orderly service.addressing)
    (shows : roster.Shows service.addressing) {path contents : String} {cursor : Location}
    {canonical : FilePath}
    (opened : roster.openDocument service identity path contents cursor =
      (.ok canonical, after)) :
    roster.Opens service identity
      ((roster.sessionFor service identity).1.target service.addressing path contents cursor)
      after := by
  have moves := moves_openDocument orderly shows identity path contents cursor
  have keeps := openDocument_keeps service roster identity path contents cursor
  rw [opened] at moves keeps
  have after_found := (openDocument_ok opened).2
  have adds := openDocument_adds orderly shows opened
  have documents_eq := documents_sessionFor service roster identity
  have given_orderly : (roster.sessionFor service identity).1.Orderly service.addressing :=
    ((moves_sessionFor service roster identity).orderly orderly).sessions _
      (session?_some (session?_sessionFor service roster identity)).1
  generalize (roster.sessionFor service identity).1 = session at *
  obtain ⟨after_orderly, after_shows⟩ := moves.shows orderly shows
  have path_eq := Session.target_path given_orderly path contents cursor
  have documents : ∀ other, other ∈ after.documentsOf identity ↔
      other = session.target service.addressing path contents cursor ∨
        other ∈ roster.documentsOf identity ∧
          other.path ≠ (session.target service.addressing path contents cursor).path := by
    intro other
    rw [documentsOf, after_found, path_eq, ← documents_eq]
    exact Session.mem_opening_iff given_orderly path contents cursor other
  obtain ⟨holder, holder_found, held⟩ :=
    mem_documentsOf.mp ((documents _).mpr (.inl rfl))
  have holder_mem := (session?_some holder_found).1
  refine ⟨documents, fun client different => moves.frame different, ?_, ?_, ?_, keeps.1⟩
  · intro interface
    have object_eq := (after_orderly.sessions holder holder_mem).object_eq held
    rw [Bus.interfaces, Exports.mem_interfaces, object_eq, after_shows]
    refine and_iff_left ⟨_, holds_document holder_mem held, object_eq⟩
  · intro object different
    rcases adds with ⟨former, -, around_eq⟩ | ⟨absent, -, adds⟩
    · rw [around_eq]
    · have object_eq : (session.target service.addressing path contents cursor).object =
          service.addressing.documentObject session.id session.nextDocument := by
        rw [Session.target_of_absent absent]
        rfl
      refine Exports.interfaces_congr fun interface => ?_
      rw [adds.mem_iff, ← object_eq]
      exact or_iff_left fun added => different added.1
  · have gate_eq : after.around.bus.gate = roster.around.bus.gate := moves.gate_eq
    rw [← gate_eq]
    exact keeps.2

end Roster
end LintBus
