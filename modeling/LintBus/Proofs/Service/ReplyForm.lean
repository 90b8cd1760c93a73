import LintBus.Proofs.Client.Mirror
import LintBus.Proofs.Signature.Fits
import LintBus.Service.Answer

/-!
# Forms of replies

The number of a session shows in replies only as a part of object paths.  A reply is a form that
leaves the number open, and what a session has to say about its documents is the same form under
any number.  Replies with object paths fit the signatures of their methods.
-/

namespace LintBus

variable {ω σ : Type}

/-- A reply that leaves the number of the session open. -/
inductive ReplyForm where
  /-- A reply without a number of a session. -/
  | fixed (reply : Reply)
  /-- The object path of a document. -/
  | document (id : Nat)
  /-- The documents of a project, each as it is spelled. -/
  | project (entries : List (String × Nat))

/-- An entry of the reply about a project. -/
def Addressing.entry (addressing : Addressing) (number : Nat) (entry : String × Nat) :
    Json.Value :=
  .array [.string entry.1, .string (addressing.documentObject number entry.2)]

namespace ReplyForm

/-- The reply for the session with a number. -/
def render (addressing : Addressing) (number : Nat) : ReplyForm → Reply
  | .fixed reply => reply
  | .document id => .ok [.string (addressing.documentObject number id)]
  | .project entries => .ok [.array (entries.map (addressing.entry number))]

/-- Only the methods that parse answer with object paths. -/
def Fits (method : Method) : ReplyForm → Prop
  | .fixed _ => True
  | .document _ => method = .parse
  | .project _ => method = .parseAll

end ReplyForm

/-- The body of a reply with an object path fits the signature of its method. -/
theorem checkText_parse {object : String} (valid : ObjectPath.isValid object = true) :
    Signature.checkText Method.parse.outputSignature [.string object] = .ok () := by
  have read : Signature.parse Method.parse.outputSignature = .ok ⟨"o", [.objectPath]⟩ := by rfl
  exact Signature.checkText_ok read (.cons (.objectPath valid) .nil)

/-- The body of a reply about a project fits the signature of its method. -/
theorem checkText_parseAll {addressing : Addressing} {number : Nat}
    (valid : ∀ id, ObjectPath.isValid (addressing.documentObject number id) = true)
    (entries : List (String × Nat)) :
    Signature.checkText Method.parseAll.outputSignature
      [.array (entries.map (addressing.entry number))] = .ok () := by
  have read : Signature.parse Method.parseAll.outputSignature =
      .ok ⟨"a(so)", [.array (.struct [.string, .objectPath])]⟩ := by rfl
  have entry_fits : ∀ entry : String × Nat,
      Signature.Fits (.struct [.string, .objectPath]) (addressing.entry number entry) :=
    fun entry => .struct (.cons (.string _) (.cons (.objectPath (valid entry.2)) .nil))
  exact Signature.checkText_ok read
    (.cons (.array (List.forall_mem_map.mpr fun entry _ => entry_fits entry)) .nil)

/-- Checking a reply against the signature of its method leaves its form alone or makes one that is
fixed. -/
theorem ReplyForm.Fits.answerWith {addressing : Addressing} {method : Method} {form : ReplyForm}
    (fits : form.Fits method)
    (valid : ∀ number id, ObjectPath.isValid (addressing.documentObject number id) = true)
    (call : Call) (language : String) :
    ∃ answered : ReplyForm, ∀ number,
      (form.render addressing number).bind (call.answerWith language method) =
        answered.render addressing number := by
  cases form with
  | fixed reply => exact ⟨.fixed (reply.bind (call.answerWith language method)), fun _ => rfl⟩
  | document id =>
      obtain rfl := fits
      refine ⟨.document id, fun number => ?_⟩
      have checked := checkText_parse (valid number id)
      simp only [render, Except.bind, Call.answerWith, checked]
  | project entries =>
      obtain rfl := fits
      refine ⟨.project entries, fun number => ?_⟩
      have checked := checkText_parseAll (valid number) entries
      simp only [render, Except.bind, Call.answerWith, checked]

namespace Session

variable {addressing : Addressing} {session : Session σ}

/-- The reply about the document at a path that has just been parsed. -/
def documentForm (session : Session σ) (canonical : FilePath) : ReplyForm :=
  match session.documents.find? canonical with
  | some document => .document document.id
  | none => .fixed (.error (.ofCallError (.unknownObject canonical.text)))

/-- What the reply about a project says of the document at a path. -/
def projectPair (session : Session σ) (language : String)
    (spellings : List (FilePath × String)) (canonical : FilePath) :
    Except Fault (String × Nat) :=
  match session.documents.find? canonical with
  | none =>
      .error
        (.ofFailure language
          (.raised "service" "UnknownDocument"
            s!"backend reported {canonical.text} which is not open"))
  | some document =>
      .ok
        (match spellings.find? (·.1.same canonical) with
          | some (_, spelling) => spelling
          | none => document.spelling,
        document.id)

/-- The reply about the documents of a project. -/
def projectForm (session : Session σ) (language : String)
    (spellings : List (FilePath × String)) (parsed : List FilePath) : ReplyForm :=
  match parsed.mapM (session.projectPair language spellings) with
  | .error fault => .fixed (.error fault)
  | .ok entries => .project entries

theorem documentForm_fits (session : Session σ) (canonical : FilePath) :
    (session.documentForm canonical).Fits .parse := by
  rw [documentForm]
  split
  · rfl
  · trivial

theorem projectForm_fits (session : Session σ) (language : String)
    (spellings : List (FilePath × String)) (parsed : List FilePath) :
    (session.projectForm language spellings parsed).Fits .parseAll := by
  rw [projectForm]
  split
  · trivial
  · rfl

theorem documentForm_renumber (addressing : Addressing) (number : Nat) (session : Session σ)
    (canonical : FilePath) :
    (session.renumber addressing number).documentForm canonical =
      session.documentForm canonical := by
  simp only [documentForm, renumber, Documents.find?_readdress]
  cases session.documents.find? canonical <;> rfl

theorem projectForm_renumber (addressing : Addressing) (number : Nat) (session : Session σ)
    (language : String) (spellings : List (FilePath × String)) (parsed : List FilePath) :
    (session.renumber addressing number).projectForm language spellings parsed =
      session.projectForm language spellings parsed := by
  have pair_eq : (session.renumber addressing number).projectPair language spellings =
      session.projectPair language spellings := by
    funext canonical
    simp only [projectPair, renumber, Documents.find?_readdress]
    cases session.documents.find? canonical <;> rfl
  rw [projectForm, projectForm, pair_eq]

end Session

namespace Service

variable (service : Service ω σ) {roster : Roster ω σ} {sender : String} {session : Session σ}

/-- The reply with the object path of a document that has been parsed. -/
theorem objectOf_form (found : roster.session? sender = some session)
    (addressed : Documents.Addressed service.addressing session.id session.documents)
    (canonical : FilePath) :
    ((objectOf roster sender canonical).map fun object => [.string object]) =
      (session.documentForm canonical).render service.addressing session.id := by
  simp only [objectOf, found, Option.bind_some, Session.documentForm]
  cases held : session.documents.find? canonical with
  | none => rfl
  | some document =>
      have object_eq := congrArg Document.object
        (addressed document (Documents.find?_some held).1)
      simp only [Except.map, ReplyForm.render]
      rw [← object_eq]
      rfl

private theorem mapM_map {α β γ ε : Type} (read : α → Except ε β) (write : β → γ)
    (items : List α) :
    (items.mapM fun item => (read item).map write) = (items.mapM read).map (List.map write) := by
  induction items with
  | nil => rfl
  | cons item rest induction =>
      rw [List.mapM_cons, List.mapM_cons, induction]
      cases read item with
      | error fault => rfl
      | ok value =>
          cases rest.mapM read with
          | error fault => rfl
          | ok values => rfl

/-- The reply about the documents of a project that has been parsed. -/
theorem projectEntries_form (found : roster.session? sender = some session)
    (addressed : Documents.Addressed service.addressing session.id session.documents)
    (spellings : List (FilePath × String)) (parsed : List FilePath) :
    ((parsed.mapM (service.projectEntry roster sender spellings)).map fun entries =>
        [.array entries]) =
      (session.projectForm service.backend.language spellings parsed).render service.addressing
        session.id := by
  have entry_eq : service.projectEntry roster sender spellings = fun canonical =>
      (session.projectPair service.backend.language spellings canonical).map
        (service.addressing.entry session.id) := by
    funext canonical
    simp only [projectEntry, found, Option.bind_some, Session.projectPair]
    cases held : session.documents.find? canonical with
    | none => rfl
    | some document =>
        have object_eq := congrArg Document.object
          (addressed document (Documents.find?_some held).1)
        simp only [Except.map, Addressing.entry]
        rw [← object_eq]
        rfl
  rw [entry_eq, mapM_map, Session.projectForm]
  cases parsed.mapM (session.projectPair service.backend.language spellings) with
  | error fault => rfl
  | ok entries => rfl

end Service
end LintBus
