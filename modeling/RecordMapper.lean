import RecordMapper.Text.Letter
import RecordMapper.Text.Blank
import RecordMapper.Text.Quoted
import RecordMapper.Text.Utf8
import RecordMapper.Name.Qualified
import RecordMapper.Name.FileName
import RecordMapper.ResolvedType.OfDeclared
import RecordMapper.MappingFunction
import RecordMapper.Manifest
import RecordMapper.Diagnostic
import RecordMapper.OutputPath
import RecordMapper.Options
import RecordMapper.Number.ShortestDecimal
import RecordMapper.Json.StringScan
import RecordMapper.Json
import RecordMapper.Json.NumberScan
import RecordMapper.Json.Reader
import RecordMapper.Json.Shape
import RecordMapper.Declaration.Json
import RecordMapper.Manifest.Json
import RecordMapper.Report
import RecordMapper.Digest.Sha256
import RecordMapper.Run
import RecordMapper.MemoryStore.Session
import RecordMapper.Sink.Failing
import RecordMapper.Sink.Unfailing
import RecordMapper.FileTree
import RecordMapper.CommandLine
import RecordMapper.Main
import RecordMapper.Proofs.Name.Characters
import RecordMapper.Proofs.MappingFunction.Readable
import RecordMapper.Proofs.MappingFunction.OfCandidate
import RecordMapper.Proofs.Options.Reachable
import RecordMapper.Proofs.Run.Accounting
import RecordMapper.Proofs.Run.FileText
import RecordMapper.Proofs.Text.Utf8
import RecordMapper.Proofs.Path.Prefixes
import RecordMapper.Proofs.FileTree.Directories
import RecordMapper.Proofs.Path.Output
import RecordMapper.Proofs.FileTree.Below
import RecordMapper.Proofs.Sink.Refinement
import RecordMapper.Proofs.Run.Isolation
import RecordMapper.Proofs.Run.Erasure
import RecordMapper.Proofs.CommandLine.CheckMode
import RecordMapper.Proofs.Manifest.Names
import RecordMapper.Proofs.Schema.Starred
import RecordMapper.Proofs.Path.Order
import RecordMapper.Proofs.MemoryStore.Files
import RecordMapper.Proofs.MemoryStore.History
import RecordMapper.Proofs.MemoryStore.Session
import RecordMapper.Proofs.Schema.Faults
import RecordMapper.Proofs.Sink.Failing
import RecordMapper.Proofs.Outcome.Skipped
import RecordMapper.Proofs.CommandLine.Effects
import RecordMapper.Proofs.Declaration.RoundTrip
import RecordMapper.Proofs.Manifest.RoundTrip
import RecordMapper.Proofs.ResolvedType.Readable
import RecordMapper.Proofs.DeclaredType.Places
import RecordMapper.Proofs.DeclaredType.FirstError
import RecordMapper.Proofs.DeclaredType.Resolving
import RecordMapper.Proofs.MappingFunction.Signature
import RecordMapper.Proofs.Run.Overloads
import RecordMapper.Proofs.Declaration.Accessors
import RecordMapper.Proofs.Schema.Acceptance
import RecordMapper.Proofs.Schema.FirstCheck
import RecordMapper.Proofs.Manifest.Acceptance
import RecordMapper.Proofs.MappingFunction.FieldOrder
import RecordMapper.Proofs.Matching.Symmetry
import RecordMapper.Proofs.Path.Components
import RecordMapper.Proofs.ResolvedType.Erased
import RecordMapper.Proofs.Options.OutputPath
import RecordMapper.Proofs.Path.Contained
import RecordMapper.Proofs.Name.Grammar
import RecordMapper.Proofs.Options.Pairs
import RecordMapper.Proofs.Options.Texts
import RecordMapper.Proofs.CommandLine.Precedence
import RecordMapper.Proofs.Report.Reading
import RecordMapper.Proofs.Digest.Sha256
