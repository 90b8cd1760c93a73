import LintBus.Proofs.Client.Release
import LintBus.Proofs.Client.Renumber

/-!
# Mirrored rosters

On a roster whose bus refuses no document every operation for a client is determined by the session
of the client and by the world.  So two rosters on which a client has the same session, but for its
number, stay like that when both do the same for the client.
-/

namespace LintBus

variable {ω σ : Type}

namespace Session

theorem opening_identity (session : Session σ) (addressing : Addressing)
    (path contents : String) (cursor : Location) :
    (session.opening addressing path contents cursor).identity = session.identity := by
  simp only [opening]
  split <;> rfl

private theorem openDocument_admitted {session : Session σ} {addressing : Addressing} {bus : Bus}
    (admitted : ∀ interface,
      bus.gate (addressing.documentObject session.id session.nextDocument) interface = none)
    (path contents : String) (cursor : Location) :
    ∃ after, session.openDocument addressing bus path contents cursor =
      (.ok (addressing.canonical path), session.opening addressing path contents cursor,
        after) := by
  simp only [openDocument, opening]
  cases found : session.documents.find? (addressing.canonical path) with
  | some document => exact ⟨bus, rfl⟩
  | none =>
      obtain ⟨after, exported⟩ := Bus.exportTogether_admitted admitted addressing.interfaces
      simp only [exported]
      exact ⟨after, rfl⟩

/-- A session that has opened some members of a project. -/
def openingAll (addressing : Addressing) (members : List (String × String))
    (session : Session σ) : Session σ :=
  members.foldl (fun session member => session.opening addressing member.1 member.2 .origin)
    session

private theorem openingAll_renumber (addressing : Addressing) (number : Nat)
    (members : List (String × String)) (session : Session σ) :
    (session.renumber addressing number).openingAll addressing members =
      (session.openingAll addressing members).renumber addressing number := by
  induction members generalizing session with
  | nil => rfl
  | cons member rest induction =>
      change openingAll addressing rest ((session.renumber addressing number).opening ..) = _
      rw [opening_renumber, induction]
      rfl

end Session

namespace Roster

variable {service : Service ω σ} {roster : Roster ω σ} {identity : String}

theorem openDocument_ready (ready : roster.Ready service) (identity path contents : String)
    (cursor : Location) :
    ∃ after, roster.openDocument service identity path contents cursor =
        (.ok (service.addressing.canonical path), after) ∧
      after.session? identity = some ((roster.sessionFor service identity).1.opening
        service.addressing path contents cursor) := by
  have opening : ∀ {holder : Roster ω σ} {session : Session σ},
      holder.session? identity = some session → holder.around = roster.around →
        ∃ bus, session.openDocument service.addressing roster.around.bus path contents cursor =
            (.ok (service.addressing.canonical path),
              session.opening service.addressing path contents cursor, bus) ∧
          ((holder.setSession (session.opening service.addressing path contents cursor)).setBus
            bus).session? identity =
              some (session.opening service.addressing path contents cursor) := by
    intro holder session found around_eq
    have admitted : ∀ interface, roster.around.bus.gate (service.addressing.documentObject
        session.id session.nextDocument) interface = none :=
      fun interface => ready.admits session.id session.nextDocument interface
    obtain ⟨bus, opened⟩ := Session.openDocument_admitted admitted path contents cursor
    obtain ⟨-, rfl⟩ := session?_some found
    exact ⟨bus, opened, session?_setSession_self _ found
      (session.opening_identity service.addressing path contents cursor)⟩
  cases found : roster.session? identity with
  | some session =>
      obtain ⟨bus, opened, kept⟩ := opening found rfl
      simp only [openDocument, sessionFor_some found, opened]
      exact ⟨_, rfl, kept⟩
  | none =>
      obtain ⟨bus, opened, kept⟩ := opening (session?_enroll_self service found) rfl
      have around_eq : (roster.enroll service identity).around = roster.around := rfl
      simp only [openDocument, sessionFor_none found, around_eq, opened]
      exact ⟨_, rfl, kept⟩

private theorem openMembers_ready (members : List (String × String)) (ready : roster.Ready service)
    {session : Session σ} (found : roster.session? identity = some session) :
    ∃ after, roster.openMembers service identity members =
        (.ok (members.map (service.addressing.canonical ·.1)), after) ∧
      after.session? identity = some (session.openingAll service.addressing members) := by
  induction members generalizing roster session with
  | nil => exact ⟨roster, rfl, found⟩
  | cons member rest induction =>
      obtain ⟨path, contents⟩ := member
      have moves := moves_openDocument ready.orderly (shows_of_agrees ready.agrees) identity path
        contents .origin
      obtain ⟨first, opened, kept⟩ := openDocument_ready ready identity path contents .origin
      rw [opened] at moves
      rw [sessionFor_some found] at kept
      obtain ⟨after, others, held⟩ := induction (moves.ready ready) kept
      simp only [openMembers, opened, others]
      exact ⟨after, rfl, held⟩

theorem parse_found (orderly : roster.Orderly service.addressing) {session : Session σ}
    (found : roster.session? identity = some session) (path : FilePath) (options : Options) :
    ∃ after, roster.parse service identity path options =
        (some (session.parse service.backend roster.around.world path options).1, after) ∧
      after.session? identity =
        some (session.parse service.backend roster.around.world path options).2.1 := by
  obtain ⟨session_mem, rfl⟩ := session?_some found
  have revises := Session.parse_revises (orderly.sessions session session_mem).distinct
    service.backend roster.around.world path options
  simp only [parse, found]
  exact ⟨_, rfl, session?_setSession_self _ found revises.identity_eq⟩

theorem parseAll_found {session : Session σ}
    (found : roster.session? identity = some session) (root : FilePath)
    (members : List FilePath) (options : Options) :
    ∃ after, roster.parseAll service identity root members options =
        (some (session.parseAll service.backend roster.around.world root members options).1,
          after) ∧
      after.session? identity =
        some (session.parseAll service.backend roster.around.world root members options).2.1 := by
  obtain ⟨-, rfl⟩ := session?_some found
  have revises := session.parseAll_revises service.backend roster.around.world root members options
  simp only [parseAll, found]
  exact ⟨_, rfl, session?_setSession_self _ found revises.identity_eq⟩

theorem session?_closeDocument (service : Service ω σ) (roster : Roster ω σ)
    (identity path : String) :
    (roster.closeDocument service identity path).session? identity =
      (roster.session? identity).bind
        (·.closing service.backend roster.around.world (service.addressing.canonical path)) := by
  simp only [closeDocument]
  cases found : roster.session? identity with
  | none =>
      rw [closeOnly_none found]
      exact found
  | some session =>
      obtain ⟨-, rfl⟩ := session?_some found
      cases held : session.documents.find? (service.addressing.canonical path) with
      | none =>
          rw [closeOnly_missing found held]
          simp only [Option.bind_some, Session.closing, held]
          exact session?_setSession_self _ found rfl
      | some document =>
          have remaining := session?_close service found document session.identity
          rw [if_pos rfl, Session.release_state] at remaining
          rw [closeOnly_open found held, Session.release_state]
          simp only [Option.bind_some, Session.closing, held]
          split
          · rw [session?_dismiss, if_pos rfl]
          · exact remaining

section Mirrors

variable {client : String} {session : Session σ} {number : Nat} {alone together : Roster ω σ}

/-- Two ready rosters have the same world. -/
structure Paired (service : Service ω σ) (alone together : Roster ω σ) : Prop where
  alone_ready : alone.Ready service
  together_ready : together.Ready service
  world_eq : alone.around.world = together.around.world

/-- On two paired rosters a client has the same session but for its number, or none. -/
structure Mirrors (service : Service ω σ) (client : String) (alone together : Roster ω σ) : Prop
    extends Paired service alone together where
  session : ∃ number, alone.session? client =
    (together.session? client).map (Session.renumber service.addressing number)

/-- On two paired rosters a client has a given session, on one of them under a given number. -/
structure Twins (service : Service ω σ) (client : String) (session : Session σ) (number : Nat)
    (alone together : Roster ω σ) : Prop
    extends Paired service alone together where
  together_found : together.session? client = some session
  alone_found : alone.session? client = some (session.renumber service.addressing number)

/-- With a confined backend rosters stay paired whatever is done on them. -/
theorem Paired.moves (paired : Paired service alone together)
    (confined : service.backend.Confined service.addressing) {left right : String}
    {alone' together' : Roster ω σ} (alone_moves : Moves service left alone alone')
    (together_moves : Moves service right together together') :
    Paired service alone' together' :=
  ⟨alone_moves.ready paired.alone_ready, together_moves.ready paired.together_ready,
    (alone_moves.world_eq confined).trans
      (paired.world_eq.trans (together_moves.world_eq confined).symm)⟩

/-- What another client does on one of the rosters keeps them mirrored. -/
theorem Mirrors.moves_other (mirrors : Mirrors service client alone together)
    (confined : service.backend.Confined service.addressing) {identity : String}
    {together' : Roster ω σ} (moves : Moves service identity together together')
    (different : client ≠ identity) : Mirrors service client alone together' := by
  have still : Moves service identity alone alone := .refl
  refine ⟨mirrors.toPaired.moves confined still moves, ?_⟩
  rw [moves.frame different]
  exact mirrors.session

private theorem Mirrors.sessionFor (mirrors : Mirrors service client alone together) :
    ∃ number, (alone.sessionFor service client).1 =
      (together.sessionFor service client).1.renumber service.addressing number := by
  obtain ⟨number, same⟩ := mirrors.session
  cases found : together.session? client with
  | none =>
      rw [found, Option.map_none] at same
      refine ⟨alone.nextId, ?_⟩
      rw [sessionFor_none same, sessionFor_none found, Session.opened_renumber]
  | some session =>
      rw [found, Option.map_some] at same
      refine ⟨number, ?_⟩
      rw [sessionFor_some same, sessionFor_some found]

theorem Twins.orderly (twins : Twins service client session number alone together) :
    session.Orderly service.addressing :=
  twins.together_ready.orderly.sessions session (session?_some twins.together_found).1

theorem Twins.session_eq (twins : Twins service client session number alone together) :
    ∃ number, alone.session? client =
      (together.session? client).map (Session.renumber service.addressing number) := by
  refine ⟨number, ?_⟩
  rw [twins.alone_found, twins.together_found, Option.map_some]

/-- Both rosters open the same document. -/
theorem Mirrors.openDocument (mirrors : Mirrors service client alone together)
    (confined : service.backend.Confined service.addressing) (path contents : String)
    (cursor : Location) :
    ∃ session number alone' together',
      alone.openDocument service client path contents cursor =
        (.ok (service.addressing.canonical path), alone') ∧
      together.openDocument service client path contents cursor =
        (.ok (service.addressing.canonical path), together') ∧
      Twins service client session number alone' together' := by
  obtain ⟨number, first_eq⟩ := mirrors.sessionFor
  obtain ⟨alone_ready, together_ready, -⟩ := mirrors.toPaired
  have alone_moves := moves_openDocument alone_ready.orderly
    (shows_of_agrees alone_ready.agrees) client path contents cursor
  have together_moves := moves_openDocument together_ready.orderly
    (shows_of_agrees together_ready.agrees) client path contents cursor
  obtain ⟨alone', alone_opened, alone_found⟩ :=
    openDocument_ready alone_ready client path contents cursor
  obtain ⟨together', together_opened, together_found⟩ :=
    openDocument_ready together_ready client path contents cursor
  rw [first_eq, Session.opening_renumber] at alone_found
  rw [alone_opened] at alone_moves
  rw [together_opened] at together_moves
  exact ⟨_, number, alone', together', alone_opened, together_opened,
    mirrors.toPaired.moves confined alone_moves together_moves, together_found, alone_found⟩

/-- Both rosters open the same members of a project. -/
theorem Twins.openMembers (twins : Twins service client session number alone together)
    (confined : service.backend.Confined service.addressing) (members : List (String × String)) :
    ∃ alone' together',
      alone.openMembers service client members =
        (.ok (members.map (service.addressing.canonical ·.1)), alone') ∧
      together.openMembers service client members =
        (.ok (members.map (service.addressing.canonical ·.1)), together') ∧
      Twins service client (session.openingAll service.addressing members) number alone'
        together' := by
  have alone_moves := moves_openMembers members twins.alone_ready.orderly
    twins.alone_ready.agrees client
  have together_moves := moves_openMembers members twins.together_ready.orderly
    twins.together_ready.agrees client
  obtain ⟨alone', alone_opened, alone_found⟩ :=
    openMembers_ready members twins.alone_ready twins.alone_found
  obtain ⟨together', together_opened, together_found⟩ :=
    openMembers_ready members twins.together_ready twins.together_found
  rw [Session.openingAll_renumber] at alone_found
  rw [alone_opened] at alone_moves
  rw [together_opened] at together_moves
  exact ⟨alone', together', alone_opened, together_opened,
    twins.toPaired.moves confined alone_moves together_moves, together_found, alone_found⟩

/-- Both rosters parse the same document with the same result. -/
theorem Twins.parse (twins : Twins service client session number alone together)
    (confined : service.backend.Confined service.addressing) (path : FilePath)
    (options : Options) :
    ∃ result after alone' together',
      alone.parse service client path options = (some result, alone') ∧
      together.parse service client path options = (some result, together') ∧
      Twins service client after number alone' together' := by
  have alone_moves := moves_parse twins.alone_ready.orderly client path options
  have together_moves := moves_parse twins.together_ready.orderly client path options
  obtain ⟨alone', alone_parsed, alone_found⟩ :=
    parse_found twins.alone_ready.orderly twins.alone_found path options
  obtain ⟨together', together_parsed, together_found⟩ :=
    parse_found twins.together_ready.orderly twins.together_found path options
  rw [twins.world_eq, Session.parse_renumber confined twins.orderly] at alone_parsed alone_found
  rw [alone_parsed] at alone_moves
  rw [together_parsed] at together_moves
  exact ⟨_, _, alone', together', alone_parsed, together_parsed,
    twins.toPaired.moves confined alone_moves together_moves, together_found, alone_found⟩

/-- Both rosters parse the same project with the same result. -/
theorem Twins.parseAll (twins : Twins service client session number alone together)
    (confined : service.backend.Confined service.addressing) (root : FilePath)
    (members : List FilePath) (options : Options) :
    ∃ result after alone' together',
      alone.parseAll service client root members options = (some result, alone') ∧
      together.parseAll service client root members options = (some result, together') ∧
      Twins service client after number alone' together' := by
  have alone_moves := moves_parseAll service alone client root members options
  have together_moves := moves_parseAll service together client root members options
  obtain ⟨alone', alone_parsed, alone_found⟩ :=
    parseAll_found twins.alone_found root members options
  obtain ⟨together', together_parsed, together_found⟩ :=
    parseAll_found twins.together_found root members options
  rw [twins.world_eq, Session.parseAll_renumber confined twins.orderly] at alone_parsed alone_found
  rw [alone_parsed] at alone_moves
  rw [together_parsed] at together_moves
  exact ⟨_, _, alone', together', alone_parsed, together_parsed,
    twins.toPaired.moves confined alone_moves together_moves, together_found, alone_found⟩

/-- Both rosters close the same document. -/
theorem Mirrors.closeDocument (mirrors : Mirrors service client alone together)
    (confined : service.backend.Confined service.addressing) (path : String) :
    ∃ number, (alone.closeDocument service client path).session? client =
      ((together.closeDocument service client path).session? client).map
        (Session.renumber service.addressing number) := by
  obtain ⟨number, same⟩ := mirrors.session
  refine ⟨number, ?_⟩
  rw [session?_closeDocument, session?_closeDocument, same, mirrors.world_eq]
  cases found : together.session? client with
  | none => rfl
  | some session =>
      have orderly := mirrors.together_ready.orderly.sessions session (session?_some found).1
      exact Session.closing_renumber confined orderly number _ _

end Mirrors
end Roster
end LintBus
