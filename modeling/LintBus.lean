import LintBus.Backend.Scripted
import LintBus.Main
import LintBus.Proofs.Backend.Reported
import LintBus.Proofs.Backend.Stylesheets
import LintBus.Proofs.Bus.History
import LintBus.Proofs.Css.OpenComment
import LintBus.Proofs.Css.Pruning
import LintBus.Proofs.Css.Warnings
import LintBus.Proofs.Diagnostic.Encoding
import LintBus.Proofs.File.Lexical
import LintBus.Proofs.Rpc.Departure
import LintBus.Proofs.Rpc.FaultCode
import LintBus.Proofs.Service.Agreement
import LintBus.Proofs.Service.Answered
import LintBus.Proofs.Service.Arguments
import LintBus.Proofs.Service.FirstSpelling
import LintBus.Proofs.Service.Identity
import LintBus.Proofs.Service.Isolation
import LintBus.Proofs.Service.Notice
import LintBus.Proofs.Service.Oblivion
import LintBus.Proofs.Service.Reclamation
import LintBus.Proofs.Service.Repetition
import LintBus.Proofs.Service.RootCursor
import LintBus.Proofs.Service.Spelling
import LintBus.Proofs.Service.Teardown
import LintBus.Proofs.Service.Undivided
import LintBus.Proofs.Service.Vacancy
import LintBus.Proofs.Signature.Blame
import LintBus.Proofs.Signature.Printing
