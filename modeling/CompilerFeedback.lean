import CompilerFeedback.Invocation
import CompilerFeedback.Main
import CompilerFeedback.Proofs.CommandLine
import CompilerFeedback.Proofs.Corpus
import CompilerFeedback.Proofs.Diagnostic
import CompilerFeedback.Proofs.Feedback.Groups
import CompilerFeedback.Proofs.Group.Pass
import CompilerFeedback.Proofs.Noise
import CompilerFeedback.Proofs.Openings
import CompilerFeedback.Proofs.Header.Patterns
import CompilerFeedback.Proofs.Session.Registers
import CompilerFeedback.Session
import CompilerFeedback.Proofs.Journal.Name
import CompilerFeedback.Proofs.Span
import CompilerFeedback.Proofs.Journal
import CompilerFeedback.Proofs.Journal.Template
import CompilerFeedback.Proofs.Json.Tokens
import CompilerFeedback.Proofs.Json.Value
import CompilerFeedback.Proofs.Json
import CompilerFeedback.Proofs.Report
import CompilerFeedback.Proofs.Line.Numeral
import CompilerFeedback.Proofs.Indentation
import CompilerFeedback.Proofs.Line.Grammar
import CompilerFeedback.Proofs.Block.Pass
import CompilerFeedback.Proofs.OutputFile.Sharing
import CompilerFeedback.Proofs.Path.Spelling
import CompilerFeedback.Proofs.FileSystem.Frame
import CompilerFeedback.Proofs.OutputFile.Frame
import CompilerFeedback.Proofs.ShellWords
import CompilerFeedback.Proofs.Header.Order
import CompilerFeedback.Proofs.Journal.Level
import CompilerFeedback.Proofs.Block.Dedent
import CompilerFeedback.Proofs.Header.Number
import CompilerFeedback.Proofs.Block.CitedSource
