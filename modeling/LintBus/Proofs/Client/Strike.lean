import LintBus.Proofs.Client.Closing
import LintBus.Proofs.Client.Ledger

/-!
# Documents that are struck off

Closing a document of a client and dismissing a client both strike documents off a roster: the
documents go away, so do the sessions that are left without any, and everything else stays.  What is
struck off in several steps can be struck off at once, so the order of the steps makes no
difference.
-/

namespace LintBus

variable {ω σ τ : Type}

/-- No release of a document changes what a view shows of the state of the backend. -/
def Backend.Keeps (backend : Backend ω σ) (view : σ → τ) : Prop :=
  ∀ world state document, view (backend.stateAfterRelease world state document) = view state

namespace Session

/-- A session with a view of the state of its backend in place of the state. -/
def viewed (view : σ → τ) (session : Session σ) : Session τ :=
  ⟨session.id, session.identity, view session.state, session.documents, session.nextDocument⟩

/-- What is left of a session when some documents of it are gone: nothing without documents. -/
def spare (gone : Document → Bool) (session : Session σ) : Option (Session σ) :=
  let kept := session.documents.filter (!gone ·)
  if kept.isEmpty then none else some { session with documents := kept }

section Spare

variable {session : Session σ} {gone : Document → Bool}

private theorem spare_congr {other : Document → Bool}
    (same : ∀ document ∈ session.documents, gone document = other document) :
    session.spare gone = session.spare other := by
  have kept_eq : session.documents.filter (!gone ·) = session.documents.filter (!other ·) :=
    List.filter_congr fun document held => by rw [same document held]
  simp only [spare, kept_eq]

private theorem spare_untouched (untouched : ∀ document ∈ session.documents, gone document = false)
    (occupied : session.documents ≠ []) : session.spare gone = some session := by
  have kept_eq : session.documents.filter (!gone ·) = session.documents :=
    List.filter_eq_self.mpr fun document held => by rw [untouched document held]; rfl
  simp only [spare, kept_eq, List.isEmpty_iff, if_neg occupied]

private theorem spare_spare (first second : Document → Bool) (session : Session σ) :
    (session.spare first).bind (·.spare second) =
      session.spare fun document => first document || second document := by
  have kept_eq : (session.documents.filter (!first ·)).filter (!second ·) =
      session.documents.filter fun document => !(first document || second document) := by
    rw [List.filter_filter]
    exact List.filter_congr fun document _ => by rw [Bool.not_or, Bool.and_comm]
  simp only [spare, ← kept_eq]
  split
  · next none_kept =>
      rw [List.isEmpty_iff.mp none_kept]
      rfl
  · rfl

private theorem spare_all (all : ∀ document ∈ session.documents, gone document = true) :
    session.spare gone = none := by
  have none_kept : session.documents.filter (!gone ·) = [] :=
    List.filter_eq_nil_iff.mpr fun document held => by simp [all document held]
  simp only [spare, none_kept, List.isEmpty_nil, if_true]

private theorem documents_spare (gone : Document → Bool) (session : Session σ) :
    (session.spare gone).elim [] documents = session.documents.filter (!gone ·) := by
  simp only [spare]
  split
  · next none_kept => exact (List.isEmpty_iff.mp none_kept).symm
  · rfl

/-- Closing a document leaves what is left of a session without it. -/
theorem viewed_closing {backend : Backend ω σ} {view : σ → τ} (keeps : backend.Keeps view)
    (occupied : session.documents ≠ []) (world : ω) (path : FilePath) :
    (session.closing backend world path).map (·.viewed view) =
      (session.viewed view).spare (·.path.same path) := by
  simp only [closing]
  split
  · next missing =>
      have untouched : ∀ document ∈ (session.viewed view).documents,
          document.path.same path = false := Documents.find?_none.mp missing
      exact (spare_untouched untouched occupied).symm
  · next document held =>
      have erased : session.documents.erase document.path =
          session.documents.filter (!·.path.same path) :=
        Documents.erase_congr (Documents.find?_some held).2
      have kept := keeps world session.state document
      simp only [forget, erased]
      split
      · next none_kept => exact (if_pos none_kept).symm
      · next some_kept =>
          rw [Option.map_some, viewed, kept]
          exact (if_neg some_kept).symm

end Spare
end Session

namespace Roster

variable {service : Service ω σ} {view : σ → τ} {roster before middle after : Roster ω σ}
  {identity : String}

/-- What a view of backend states shows of the session of a client. -/
def seen (view : σ → τ) (roster : Roster ω σ) (client : String) : Option (Session τ) :=
  (roster.session? client).map (·.viewed view)

private theorem documentsOf_seen (view : σ → τ) (roster : Roster ω σ) (client : String) :
    roster.documentsOf client = (roster.seen view client).elim [] Session.documents := by
  rw [documentsOf, seen]
  cases roster.session? client <;> rfl

private theorem sessions_eq_nil (view : σ → τ) :
    roster.sessions = [] ↔ ∀ client, roster.seen view client = none := by
  simp only [seen, Option.map_eq_none_iff, session?_none]
  constructor
  · intro none_there client session session_mem
    simp [none_there] at session_mem
  · intro unseen
    exact List.eq_nil_iff_forall_not_mem.mpr fun session session_mem =>
      unseen session.identity session session_mem rfl

private theorem Occupied.documents_ne_nil (occupied : roster.Occupied) {session : Session σ}
    (found : roster.session? identity = some session) : session.documents ≠ [] :=
  occupied session (session?_some found).1

/-- What holds of the roster of a service at all times. -/
structure InOrder (service : Service ω σ) (roster : Roster ω σ) : Prop where
  orderly : roster.Orderly service.addressing
  agrees : service.Agrees roster
  accounts : roster.Accounts service
  occupied : roster.Occupied

private theorem InOrder.moves (inOrder : before.InOrder service)
    (moves : Moves service identity before after) (tallies : after.Tallies before) :
    after.InOrder service := by
  obtain ⟨orderly, agrees⟩ := moves.sound inOrder.orderly inOrder.agrees
  exact ⟨orderly, agrees, (moves.accounts inOrder.orderly inOrder.agrees inOrder.accounts).1,
    tallies.occupied inOrder.occupied⟩

theorem InOrder.closeDocument (inOrder : roster.InOrder service) (identity path : String) :
    (roster.closeDocument service identity path).InOrder service :=
  inOrder.moves (moves_closeDocument inOrder.orderly identity path)
    (tallies_closeDocument service roster identity path)

theorem InOrder.dismiss (inOrder : roster.InOrder service) (identity : String) :
    (roster.dismiss service identity).InOrder service :=
  inOrder.moves (moves_dismiss inOrder.orderly identity) (tallies_dismiss service roster identity)

private theorem holds_iff_documentsOf (identities : (roster.sessions.map Session.identity).Nodup)
    (handle : Handle) :
    roster.Holds handle ↔
      ∃ client, ∃ document ∈ roster.documentsOf client, document.handle = handle := by
  constructor
  · rintro ⟨session, session_mem, held⟩
    obtain ⟨document, document_mem, rfl⟩ := Documents.mem_handles.mp held
    have found := session?_eq_some identities session_mem
    exact ⟨session.identity, document, mem_documentsOf.mpr ⟨session, found, document_mem⟩, rfl⟩
  · rintro ⟨client, document, held, rfl⟩
    exact holds_of_mem_documents (roster.documentsOf_subset client held)

private theorem InOrder.bus_eq {left right : Roster ω σ} (left_order : left.InOrder service)
    (right_order : right.InOrder service)
    (gate_eq : left.around.bus.gate = right.around.bus.gate)
    (same : ∀ client, left.documentsOf client = right.documentsOf client) :
    left.around.bus = right.around.bus := by
  refine Bus.ext_mem gate_eq fun pair => ?_
  rw [left_order.agrees, right_order.agrees]
  simp only [holds_iff_documentsOf left_order.orderly.identities,
    holds_iff_documentsOf right_order.orderly.identities, same]

/-- Some client has the document open, and it is among those that are gone. -/
def Struck (gone : String → Document → Bool) (roster : Roster ω σ) (document : Document) : Prop :=
  ∃ client, document ∈ roster.documentsOf client ∧ gone client document = true

/-- One roster comes from another by striking documents off. -/
structure Strikes (service : Service ω σ) (view : σ → τ) (gone : String → Document → Bool)
    (before after : Roster ω σ) : Prop where
  /-- Clients keep their sessions with the documents that are not gone, if there are any. -/
  sessions : ∀ client, after.seen view client =
    (before.seen view client).bind (·.spare (gone client))
  nextId_eq : after.nextId = before.nextId
  /-- It is counted if the last session has gone away. -/
  emptied_eq : after.emptied = before.emptied + if before.vacates after then 1 else 0
  gate_eq : after.around.bus.gate = before.around.bus.gate
  /-- The backend has been asked to release what is gone. -/
  released : ∀ document, document ∈ after.around.released ↔
    document ∈ before.around.released ∨
      service.backend.dispose.isSome = true ∧ before.Struck gone document

namespace Strikes

variable {gone first second : String → Document → Bool}

private theorem mem_documentsOf (strikes : Strikes service view gone before after) {client : String}
    {document : Document} :
    document ∈ after.documentsOf client ↔
      document ∈ before.documentsOf client ∧ gone client document = false := by
  rw [documentsOf_seen view, documentsOf_seen view, strikes.sessions]
  cases before.seen view client with
  | none => simp
  | some session =>
      rw [Option.bind_some, Session.documents_spare]
      simp

theorem of_untouched (occupied : roster.Occupied)
    (untouched : ∀ client, ∀ document ∈ roster.documentsOf client, gone client document = false) :
    Strikes service view gone roster roster where
  sessions client := by
    cases found : roster.session? client with
    | none => simp [seen, found]
    | some session =>
        have kept : (session.viewed view).spare (gone client) = some (session.viewed view) := by
          refine Session.spare_untouched (fun document held => ?_)
            (occupied.documents_ne_nil found)
          exact untouched client document (Roster.mem_documentsOf.mpr ⟨session, found, held⟩)
        simp [seen, found, kept]
  nextId_eq := rfl
  emptied_eq := (Retains.refl roster).tallies.emptied_eq
  gate_eq := rfl
  released document := by
    have none_struck : ¬ roster.Struck gone document := by
      rintro ⟨client, held, struck⟩
      simp [untouched client document held] at struck
    simp [none_struck]

/-- Striking documents off twice is striking them off at once. -/
theorem trans (earlier : Strikes service view first before middle)
    (later : Strikes service view second middle after) :
    Strikes service view (fun client document => first client document || second client document)
      before after where
  sessions client := by
    rw [later.sessions, earlier.sessions, Option.bind_assoc]
    exact congrArg _ (funext fun session => session.spare_spare (first client) (second client))
  nextId_eq := later.nextId_eq.trans earlier.nextId_eq
  emptied_eq := by
    have stays : middle.sessions = [] → after.sessions = [] := by
      rw [sessions_eq_nil view, sessions_eq_nil view]
      intro unseen client
      rw [later.sessions, unseen, Option.bind_none]
    have brought : before.sessions = [] → middle.sessions = [] := by
      rw [sessions_eq_nil view, sessions_eq_nil view]
      intro unseen client
      rw [earlier.sessions, unseen, Option.bind_none]
    rw [later.emptied_eq, earlier.emptied_eq, Nat.add_assoc]
    simp only [vacates_iff]
    by_cases before_nil : before.sessions = []
    · simp [before_nil, brought before_nil]
    · by_cases middle_nil : middle.sessions = []
      · simp [before_nil, middle_nil, stays middle_nil]
      · simp [before_nil, middle_nil]
  gate_eq := later.gate_eq.trans earlier.gate_eq
  released document := by
    rw [later.released, earlier.released, or_assoc, ← and_or_left]
    refine or_congr_right (and_congr_right fun _ => ?_)
    simp only [Struck, earlier.mem_documentsOf, ← exists_or, Bool.or_eq_true]
    refine exists_congr fun client => ?_
    cases first client document <;> simp

end Strikes

/-- The documents of a client at a path. -/
def named (addressing : Addressing) (identity path client : String) (document : Document) : Bool :=
  client == identity && document.path.same (addressing.canonical path)

/-- The documents of a client. -/
def owned (identity client : String) (_ : Document) : Bool := client == identity

private theorem struck_named (orderly : roster.Orderly service.addressing) {path : String}
    {document : Document} (found : roster.documentAt? service identity path = some document)
    (other : Document) :
    roster.Struck (named service.addressing identity path) other ↔ other = document := by
  obtain ⟨session, session_found, held⟩ := Option.bind_eq_some_iff.mp found
  obtain ⟨document_mem, document_same⟩ := Documents.find?_some held
  simp only [Struck, named, Bool.and_eq_true, beq_iff_eq]
  constructor
  · rintro ⟨client, other_mem, rfl, other_same⟩
    rw [documentsOf, session_found, Option.elim_some] at other_mem
    have distinct := (orderly.sessions session (session?_some session_found).1).distinct
    rw [FilePath.same_comm] at document_same
    exact Documents.eq_of_same distinct other_mem document_mem
      (FilePath.same_trans other_same document_same)
  · rintro rfl
    exact ⟨identity, mem_documentsOf.mpr ⟨session, session_found, document_mem⟩, rfl,
      document_same⟩

private theorem struck_owned (document : Document) :
    roster.Struck (owned identity) document ↔ document ∈ roster.documentsOf identity := by
  simp [Struck, owned]

private theorem seen_untouched (occupied : before.Occupied) {client : String}
    {gone : String → Document → Bool} (kept : after.session? client = before.session? client)
    (untouched : ∀ document, gone client document = false) :
    after.seen view client = (before.seen view client).bind (·.spare (gone client)) := by
  rw [seen, seen, kept]
  cases found : before.session? client with
  | none => rfl
  | some session =>
      have kept : (session.viewed view).spare (gone client) = some (session.viewed view) :=
        Session.spare_untouched (fun document _ => untouched document)
          (occupied.documents_ne_nil found)
      rw [Option.map_some, Option.bind_some, kept]

/-- Closing a path strikes off the document there, if there is one. -/
theorem strikes_closeDocument (keeps : service.backend.Keeps view)
    (inOrder : roster.InOrder service) (identity path : String) :
    Strikes service view (named service.addressing identity path) roster
      (roster.closeDocument service identity path) := by
  cases named_eq : roster.documentAt? service identity path with
  | none =>
      rw [closeDocument_absent inOrder.orderly.identities named_eq]
      refine .of_untouched inOrder.occupied fun client document held => ?_
      obtain ⟨session, found, held⟩ := Roster.mem_documentsOf.mp held
      rw [named, Bool.and_eq_false_imp, beq_iff_eq]
      rintro rfl
      rw [documentAt?, found, Option.bind_some] at named_eq
      exact Documents.find?_none.mp named_eq document held
  | some document =>
      obtain ⟨session, found, held⟩ := Option.bind_eq_some_iff.mp named_eq
      have moves := moves_closeDocument inOrder.orderly identity path
      constructor
      · intro client
        by_cases same : client = identity
        · have spared : named service.addressing identity path client =
              (·.path.same (service.addressing.canonical path)) := by
            funext document
            simp [named, same]
          rw [spared, same, seen, seen, session?_closeDocument, found, Option.bind_some,
            Option.map_some, Option.bind_some]
          exact Session.viewed_closing keeps (inOrder.occupied.documents_ne_nil found) ..
        · exact seen_untouched inOrder.occupied (moves.frame same)
            fun document => by simp [named, same]
      · exact closeDocument_nextId found held
      · exact (tallies_closeDocument service roster identity path).emptied_eq
      · exact moves.gate_eq
      · intro other
        rw [closeDocument_around found held, Session.release_released, List.mem_append,
          Backend.mem_informed, List.mem_singleton, or_comm,
          struck_named inOrder.orderly named_eq]

/-- Dismissing a client strikes off all its documents. -/
theorem strikes_dismiss (view : σ → τ) (inOrder : roster.InOrder service) (identity : String) :
    Strikes service view (owned identity) roster (roster.dismiss service identity) := by
  have moves := moves_dismiss inOrder.orderly identity
  constructor
  · intro client
    by_cases same : client = identity
    · have all_gone : ∀ session : Session τ, session.spare (owned identity client) = none :=
        fun session => Session.spare_all fun document _ => by simp [owned, same]
      rw [seen, session?_dismiss, if_pos same]
      simp [all_gone]
    · exact seen_untouched inOrder.occupied (moves.frame same)
        fun document => by simp [owned, same]
  · exact dismiss_nextId service roster identity
  · exact (tallies_dismiss service roster identity).emptied_eq
  · exact moves.gate_eq
  · intro document
    rw [dismiss_released, List.mem_append, Backend.mem_informed, List.mem_reverse, or_comm,
      struck_owned]

/-- Two rosters are the same but for the world, for what a view of backend states does not show,
and for the order of the releases. -/
structure Coincides (view : σ → τ) (left right : Roster ω σ) : Prop where
  sessions : ∀ client, left.seen view client = right.seen view client
  nextId_eq : left.nextId = right.nextId
  emptied_eq : left.emptied = right.emptied
  bus_eq : left.around.bus = right.around.bus
  released : left.around.released.Perm right.around.released

/-- What is left depends only on the documents that have been struck off. -/
theorem Strikes.coincides {left right : Roster ω σ} {leftGone rightGone : String → Document → Bool}
    (left_strikes : Strikes service view leftGone before left)
    (right_strikes : Strikes service view rightGone before right)
    (left_order : left.InOrder service) (right_order : right.InOrder service)
    (same : ∀ client, ∀ document ∈ before.documentsOf client,
      leftGone client document = rightGone client document) :
    Coincides view left right := by
  have sessions : ∀ client, left.seen view client = right.seen view client := by
    intro client
    have same := same client
    rw [documentsOf_seen view] at same
    rw [left_strikes.sessions, right_strikes.sessions]
    cases seen_eq : before.seen view client with
    | none => rfl
    | some session =>
        rw [seen_eq] at same
        exact Session.spare_congr same
  constructor
  · exact sessions
  · exact left_strikes.nextId_eq.trans right_strikes.nextId_eq.symm
  · have nil_iff : left.sessions = [] ↔ right.sessions = [] := by
      simp only [sessions_eq_nil view, sessions]
    rw [left_strikes.emptied_eq, right_strikes.emptied_eq]
    simp only [vacates_iff, nil_iff]
  · refine left_order.bus_eq right_order
      (left_strikes.gate_eq.trans right_strikes.gate_eq.symm) fun client => ?_
    rw [documentsOf_seen view, documentsOf_seen view, sessions]
  · refine (List.perm_ext_iff_of_nodup (left_order.accounts.once.of_map _)
      (right_order.accounts.once.of_map _)).mpr fun document => ?_
    rw [left_strikes.released, right_strikes.released]
    refine or_congr_right (and_congr_right fun _ => exists_congr fun client => ?_)
    exact and_congr_right fun held => by rw [same client document held]

end Roster
end LintBus
