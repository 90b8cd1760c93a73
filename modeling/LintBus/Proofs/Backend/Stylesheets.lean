import LintBus.Proofs.Client.Confinement
import LintBus.Proofs.Client.Result

/-!
# Projects of stylesheets

The stylesheet backend parses a project as it parses single documents: the root first, and then each
member under the root's directory once.  What it has done to the documents up to some point follows
from the paths that it has parsed up to there.
-/

namespace LintBus

/-- What the document at a path is diagnosed with, if one is open there. -/
def Session.diagnosticsAt? {σ : Type} (session : Session σ) (path : FilePath) :
    Option (List Diagnostic) :=
  (session.documents.find? path).map Document.diagnostics

namespace Css

variable {ω : Type} {fileText : FileText ω} {world : ω} {root path : FilePath}
  {parsed paths rest members : List FilePath} {before documents : Documents}

/-- What a member of a project is diagnosed with: the findings in its text, or an error at its
beginning if it cannot be read. -/
def verdict (fileText : FileText ω) (world : ω) (contents : FilePath) : List Diagnostic :=
  match fileText world contents with
  | .error error => [.errorAt ⟨1, 1⟩ error.message]
  | .ok source =>
      match lint source with
      | .error problem => [problem.toDiagnostic]
      | .ok warnings => warnings

private theorem left_parseDocument (fileText : FileText ω) (world : ω) (document : Document) :
    (parseDocument fileText world document).left =
      match fileText world document.contents with
      | .error _ => document.diagnostics
      | .ok _ => verdict fileText world document.contents := by
  unfold parseDocument verdict
  cases fileText world document.contents with
  | error error => rfl
  | ok source =>
      dsimp only
      cases lint source with
      | error problem => rfl
      | ok warnings => rfl

/-- The paths of a project that are parsed: the root and then the members under its directory, each
at its first occurrence. -/
def companions (root : FilePath) (members : List FilePath) : List FilePath :=
  (members.filter fun member =>
    member.startsWith (projectDirectory root) && !member.same root).eraseDupsBy FilePath.same

private theorem parsePaths_skipped
    (skipped : (inProject root path && !parsed.any path.same) = false) :
    parsePaths fileText world root parsed (path :: rest) =
      parsePaths fileText world root parsed rest := by
  rw [parsePaths, skipped]
  rfl

/-- A path that has its turn is given its verdict, unless it is that of a root that cannot be
read. -/
theorem parsePaths_taken (taken : (inProject root path && !parsed.any path.same) = true) :
    parsePaths fileText world root parsed (path :: rest) =
      .look path fun
        | none => parsePaths fileText world root parsed rest
        | some document =>
            match fileText world document.contents with
            | .ok _ =>
                .revise path (verdict fileText world document.contents)
                  (parsePaths fileText world root (path :: parsed) rest)
            | .error error =>
                if path.same root then
                  .revise path document.diagnostics
                    (.finish ⟨world, (), .failed (.ofFileError error)⟩)
                else
                  .revise path (verdict fileText world document.contents)
                    (parsePaths fileText world root (path :: parsed) rest) := by
  rw [parsePaths, taken, if_pos rfl]
  congr 1
  funext found
  cases found with
  | none => rfl
  | some document =>
      dsimp only
      unfold parseDocument verdict
      cases fileText world document.contents with
      | error error => rfl
      | ok source =>
          dsimp only
          cases lint source with
          | error problem => rfl
          | ok warnings => rfl

/-- The documents at the paths in `parsed` have their verdict and all others are as before. -/
def Judged (fileText : FileText ω) (world : ω) (before : Documents) (parsed : List FilePath)
    (documents : Documents) : Prop :=
  ∀ path, documents.find? path =
    (before.find? path).map fun document =>
      if parsed.any path.same then document.diagnosed (verdict fileText world document.contents)
      else document

private theorem judged_nil (fileText : FileText ω) (world : ω) (before : Documents) :
    Judged fileText world before [] before := by
  intro path
  simp

private theorem Judged.revise (judged : Judged fileText world before parsed documents)
    {document : Document} (found : before.find? path = some document) :
    Judged fileText world before (path :: parsed)
      (documents.update path (·.diagnosed (verdict fileText world document.contents))) := by
  intro named
  rw [Documents.find?_update documents path named
    (·.diagnosed (verdict fileText world document.contents)) (fun _ => rfl), judged named,
    Option.map_map, List.any_cons]
  cases same : named.same path with
  | true =>
      rw [Documents.find?_congr same, found]
      simp only [Function.comp, Option.map_some, if_true, Bool.true_or]
      split
      · rfl
      · rfl
  | false => simp only [Function.comp_def, Bool.false_eq_true, if_false, Bool.false_or]

/-- Once the root has been parsed, the rest of a project is parsed to its end. -/
theorem run_parsePaths {scope : List FilePath} (rooted : parsed.any root.same = true)
    (within : ∀ path ∈ paths, ProjectRun.inScope scope path = true ∧
      ∃ document, before.find? path = some document)
    (judged : Judged fileText world before parsed documents) :
    let reported :=
      List.eraseDupsBy.loop FilePath.same
        (paths.filter fun path => path.startsWith (projectDirectory root)) parsed
    ∃ left, (parsePaths fileText world root parsed paths).run scope documents =
        (left, ⟨world, (), .done reported⟩) ∧
      Judged fileText world before reported left := by
  induction paths generalizing parsed documents with
  | nil =>
      refine ⟨documents, rfl, fun path => ?_⟩
      simpa [List.eraseDupsBy.loop] using judged path
  | cons path rest induction =>
      have rest_within := fun other listed => within other (List.mem_cons_of_mem path listed)
      cases seen : parsed.any path.same with
      | true =>
          have skipped : (inProject root path && !parsed.any path.same) = false := by simp [seen]
          rw [parsePaths_skipped skipped, List.filter_cons]
          split
          · rw [List.eraseDupsBy.loop, seen]
            exact induction rooted rest_within judged
          · exact induction rooted rest_within judged
      | false =>
          have apart : path.same root = false := by
            by_contra same
            rw [Bool.not_eq_false] at same
            obtain ⟨former, listed, root_same⟩ := List.any_eq_true.mp rooted
            have unlike := List.any_eq_false.mp seen former listed
            exact unlike (FilePath.same_trans same root_same)
          cases under : path.startsWith (projectDirectory root) with
          | false =>
              have skipped : (inProject root path && !parsed.any path.same) = false := by
                simp [inProject, apart, under]
              rw [parsePaths_skipped skipped, List.filter_cons, under]
              exact induction rooted rest_within judged
          | true =>
              have taken : (inProject root path && !parsed.any path.same) = true := by
                simp [inProject, under, seen]
              obtain ⟨in_scope, document, found⟩ := within path List.mem_cons_self
              have held : documents.find? path = some document := by
                rw [judged path, found, seen]
                rfl
              have still_rooted : (path :: parsed).any root.same = true := by
                rw [List.any_cons, rooted, Bool.or_true]
              have continued := induction still_rooted rest_within (judged.revise found)
              rw [parsePaths_taken taken, List.filter_cons, under, if_pos rfl,
                List.eraseDupsBy.loop, seen]
              simp only [ProjectRun.run, in_scope, if_true, held, apart, Bool.false_eq_true,
                if_false]
              split
              all_goals
                simp only [ProjectRun.run, in_scope, if_true]
                exact continued

private theorem reported_eq (root : FilePath) (members : List FilePath) :
    List.eraseDupsBy.loop FilePath.same
        (members.filter fun path => path.startsWith (projectDirectory root)) [root] =
      root :: companions root members := by
  have unfolded : List.eraseDupsBy.loop FilePath.same
      (members.filter fun path => path.startsWith (projectDirectory root)) [root] =
        (root :: members.filter fun path =>
          path.startsWith (projectDirectory root)).eraseDupsBy FilePath.same := rfl
  rw [unfolded, List.eraseDupsBy_cons, List.filter_filter, companions]
  congr 3
  funext path
  cases path.same root with
  | true => simp
  | false => simp

private theorem mem_of_mem_loop
    (reported : path ∈ List.eraseDupsBy.loop FilePath.same paths parsed) :
    path ∈ paths ∨ path ∈ parsed := by
  induction paths generalizing parsed with
  | nil => exact .inr (List.mem_reverse.mp reported)
  | cons first rest induction =>
      rw [List.eraseDupsBy.loop] at reported
      split at reported
      · exact (induction reported).imp_left (List.mem_cons_of_mem first)
      · rcases induction reported with listed | listed
        · exact .inl (List.mem_cons_of_mem first listed)
        · rcases List.mem_cons.mp listed with rfl | listed
          · exact .inl List.mem_cons_self
          · exact .inr listed

private theorem mem_companions (listed : path ∈ companions root members) : path ∈ members := by
  rcases mem_of_mem_loop listed with kept | absent
  · exact (List.mem_filter.mp kept).1
  · exact absurd absent List.not_mem_nil

/-- What is read at the path of an open document. -/
def source? (fileText : FileText ω) (world : ω) (session : Session Unit) (path : FilePath) :
    Option (Except FileError String) :=
  (session.documents.find? path).map fun document => fileText world document.contents

private theorem diagnosticsAt?_parse {session : Session Unit} {document : Document}
    (found : session.documents.find? path = some document) (fileText : FileText ω) (world : ω)
    (options : Options) :
    (session.parse (backend fileText) world path options).2.1.diagnosticsAt? path =
      some (match fileText world document.contents with
        | .error _ => []
        | .ok _ => verdict fileText world document.contents) := by
  rw [Session.diagnosticsAt?, Session.find?_parse found]
  exact congrArg some (left_parseDocument fileText world (document.diagnosed []))

private theorem ranAll_unreadable {session : Session Unit} {document : Document} {error : FileError}
    (found : session.documents.find? root = some document)
    (unreadable : fileText world document.contents = .error error) (members : List FilePath)
    (options : Options) :
    session.ranAll (backend fileText) world root members options =
      ((Session.clearDiagnostics (root :: members) session.documents).update root
        (·.diagnosed []), ⟨world, (), .failed (.ofFileError error)⟩) := by
  have taken : (inProject root root && !List.any [] root.same) = true := by simp [inProject]
  have in_scope : ProjectRun.inScope (root :: members) root = true := by
    simp [ProjectRun.inScope]
  have held := Session.find?_cleared in_scope found
  have ran : (backend fileText).parseAll world session.state root members options =
      parsePaths fileText world root [] (root :: members) := rfl
  rw [Session.ranAll, ran, parsePaths_taken taken]
  have contents_eq : (document.diagnosed []).contents = document.contents := rfl
  simp only [ProjectRun.run, in_scope, if_true, held, contents_eq, unreadable,
    FilePath.same_refl]
  rfl

/-- A project whose root can be read is parsed to its end. -/
theorem ranAll_readable {session : Session Unit} {document : Document} {text : String}
    (is_open : ∀ path ∈ root :: members, session.Open path)
    (found : session.documents.find? root = some document)
    (readable : fileText world document.contents = .ok text) (options : Options) :
    ∃ left, session.ranAll (backend fileText) world root members options =
        (left, ⟨world, (), .done (root :: companions root members)⟩) ∧
      Judged fileText world (Session.clearDiagnostics (root :: members) session.documents)
        (root :: companions root members) left := by
  have taken : (inProject root root && !List.any [] root.same) = true := by simp [inProject]
  have listed_in_scope : ∀ path ∈ root :: members,
      ProjectRun.inScope (root :: members) path = true :=
    fun path listed => List.any_eq_true.mpr ⟨path, listed, path.same_refl⟩
  have held := Session.find?_cleared (listed_in_scope root List.mem_cons_self) found
  have within : ∀ path ∈ members, ProjectRun.inScope (root :: members) path = true ∧
      ∃ document, (Session.clearDiagnostics (root :: members) session.documents).find? path =
        some document := by
    intro path listed
    have listed := List.mem_cons_of_mem root listed
    obtain ⟨member, found_member⟩ := Session.open_iff.mp (is_open path listed)
    have in_scope := listed_in_scope path listed
    exact ⟨in_scope, _, Session.find?_cleared in_scope found_member⟩
  have judged := (judged_nil fileText world
    (Session.clearDiagnostics (root :: members) session.documents)).revise held
  have rooted : List.any [root] root.same = true := by simp
  have continued := run_parsePaths rooted within judged
  rw [reported_eq] at continued
  have ran : (backend fileText).parseAll world session.state root members options =
      parsePaths fileText world root [] (root :: members) := rfl
  rw [Session.ranAll, ran, parsePaths_taken taken]
  have contents_eq : (document.diagnosed []).contents = document.contents := rfl
  simp only [ProjectRun.run, listed_in_scope root List.mem_cons_self, if_true, held, contents_eq,
    readable]
  exact continued

/-- Parsing a project of open documents does what parsing single documents does.  It fails if the
root cannot be read, and then nothing is diagnosed.  Otherwise it reports the root and then the
members under the root's directory, each at its first occurrence, and these are diagnosed as if they
had been parsed alone, except that there is an error in a member that cannot be read; a member that
is not reported is left without diagnostics. -/
theorem parseAll_as_alone (fileText : FileText ω) (session : Session Unit) (world : ω)
    (root : FilePath) (members : List FilePath) (options : Options)
    (is_open : ∀ path ∈ root :: members, session.Open path) :
    let ended := session.parseAll (backend fileText) world root members options
    let alone := fun path => session.parse (backend fileText) world path options
    let reported := root :: companions root members
    ∃ source, source? fileText world session root = some source ∧
      match source with
      | .error error =>
          ended.1 = .error (.ofFileError error) ∧
          ∀ path ∈ root :: members, ended.2.1.diagnosticsAt? path = some []
      | .ok _ =>
          ended.1 = .ok reported ∧
          ∀ path ∈ root :: members,
            ended.2.1.diagnosticsAt? path =
              if reported.any path.same then
                match source? fileText world session path with
                | some (.error error) => some [.errorAt ⟨1, 1⟩ error.message]
                | _ => (alone path).2.1.diagnosticsAt? path
              else some [] := by
  intro ended alone reported
  have listed_in_scope : ∀ path ∈ root :: members,
      ProjectRun.inScope (root :: members) path = true :=
    fun path listed => List.any_eq_true.mpr ⟨path, listed, path.same_refl⟩
  obtain ⟨document, found⟩ := Session.open_iff.mp (is_open root List.mem_cons_self)
  refine ⟨fileText world document.contents, by rw [source?, found, Option.map_some], ?_⟩
  cases read : fileText world document.contents with
  | error error =>
      have ran := ranAll_unreadable found read members options
      have failed := Session.parseAll_failed ran
      refine ⟨congrArg Prod.fst failed, fun path listed => ?_⟩
      obtain ⟨member, found_member⟩ := Session.open_iff.mp (is_open path listed)
      have held := Session.find?_cleared (listed_in_scope path listed) found_member
      simp only [ended, failed, Session.diagnosticsAt?]
      rw [Documents.find?_update _ root path (·.diagnosed []) fun _ => rfl, held]
      split <;> rfl
  | ok text =>
      obtain ⟨left, ran, judged⟩ := ranAll_readable is_open found read options
      have done := Session.parseAll_done ran
      have all_in_scope : reported.filter (ProjectRun.inScope (root :: members)) = reported := by
        refine List.filter_eq_self.mpr fun path path_reported => listed_in_scope path ?_
        exact List.cons_subset_cons root (fun _ => mem_companions) path_reported
      refine ⟨(congrArg Prod.fst done).trans (congrArg Except.ok all_in_scope),
        fun path listed => ?_⟩
      obtain ⟨member, found_member⟩ := Session.open_iff.mp (is_open path listed)
      have held := Session.find?_cleared (listed_in_scope path listed) found_member
      have alone_eq : (alone path).2.1.diagnosticsAt? path = _ :=
        diagnosticsAt?_parse found_member fileText world options
      have left_eq : ended.2.1.diagnosticsAt? path =
          some (if reported.any path.same then verdict fileText world member.contents else []) := by
        have judged_path := judged path
        rw [held, Option.map_some] at judged_path
        simp only [ended, done, Session.diagnosticsAt?, judged_path]
        split
        · rfl
        · rfl
      rw [left_eq, alone_eq, source?, found_member, Option.map_some]
      split
      · cases read_member : fileText world member.contents with
        | error error =>
            simp only [verdict, read_member]
        | ok text => rfl
      · rfl

end Css

namespace Shelf

/-- All files can be read but one. -/
def fileText : Css.FileText Unit := fun _ path =>
  if path.text = "/site/lost.css" then .error .notFound else .ok "a{}"

/-- The members of a project: one cannot be read and comes twice, one is the root, and one is in a
directory whose name only begins like that of the project. -/
def members : List FilePath :=
  [⟨"/site/lost.css"⟩, ⟨"/site/main.css"⟩, ⟨"/sitemap/map.css"⟩, ⟨"/site/lost.css"⟩,
    ⟨"/site/part/a.css"⟩]

/-- A session in which the members of the project are open. -/
def session : Session Unit :=
  { Session.opened 0 ":1.7" () with
    documents := members.eraseDups.map fun path => .opened 0 path path.text "" }

end Shelf

theorem Css.parseAll_as_alone_shelf :
    let ended := Shelf.session.parseAll (backend Shelf.fileText) () ⟨"/site/main.css"⟩
      Shelf.members []
    (∀ path ∈ ⟨"/site/main.css"⟩ :: Shelf.members, Shelf.session.Open path) ∧
      ended.1 = .ok [⟨"/site/main.css"⟩, ⟨"/site/lost.css"⟩, ⟨"/site/part/a.css"⟩] ∧
      ended.2.1.diagnosticsAt? ⟨"/site/lost.css"⟩ =
        some [.errorAt ⟨1, 1⟩ FileError.notFound.message] ∧
      (ended.2.1.diagnosticsAt? ⟨"/site/part/a.css"⟩).map (·.map Diagnostic.message) =
        some ["Empty ruleset"] ∧
      ended.2.1.diagnosticsAt? ⟨"/sitemap/map.css"⟩ = some [] := by
  dsimp only
  have is_open : ∀ path ∈ ⟨"/site/main.css"⟩ :: Shelf.members, Shelf.session.Open path := by
    simp only [Session.Open]
    decide +kernel
  obtain ⟨source, read, ended⟩ :=
    parseAll_as_alone Shelf.fileText Shelf.session () ⟨"/site/main.css"⟩ Shelf.members [] is_open
  have read_root : source? Shelf.fileText () Shelf.session ⟨"/site/main.css"⟩ =
      some (.ok "a{}") := by decide +kernel
  obtain rfl := Option.some.inj (read_root.symm.trans read)
  have read_lost : source? Shelf.fileText () Shelf.session ⟨"/site/lost.css"⟩ =
      some (.error .notFound) := by decide +kernel
  have reported : companions ⟨"/site/main.css"⟩ Shelf.members =
      [⟨"/site/lost.css"⟩, ⟨"/site/part/a.css"⟩] := by decide +kernel
  simp only [reported] at ended
  refine ⟨is_open, ended.1, ?_, ?_, ?_⟩
  · refine (ended.2 ⟨"/site/lost.css"⟩ (by simp [Shelf.members])).trans ?_
    rw [if_pos (by decide +kernel), read_lost]
  · rw [ended.2 ⟨"/site/part/a.css"⟩ (by simp [Shelf.members]), if_pos (by decide +kernel)]
    decide +kernel
  · refine (ended.2 ⟨"/sitemap/map.css"⟩ (by simp [Shelf.members])).trans ?_
    rw [if_neg (by decide +kernel)]

end LintBus
