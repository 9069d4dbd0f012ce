import StackLexer.Lexer
import StackLexer.Main
import StackLexer.Scan.Session
import StackLexer.Words
import StackLexer.Proofs.Loader.Written
import StackLexer.Proofs.Regex.Search
import StackLexer.Proofs.Regex.Label
import StackLexer.Proofs.Regex.MinSize
import StackLexer.Proofs.Table.Compile
import StackLexer.Proofs.Table.IncludeGraph
import StackLexer.Proofs.Table.Expansion
import StackLexer.Proofs.Table.Resolution
import StackLexer.Proofs.Table.Sound
import StackLexer.Proofs.Table.Recast
import StackLexer.Proofs.Stack
import StackLexer.Proofs.Scan.Host
import StackLexer.Proofs.Scan.Partition
import StackLexer.Proofs.Scan.Pieces
import StackLexer.Proofs.Scan.Step
import StackLexer.Proofs.Scan.Dispatch
import StackLexer.Proofs.Scan.Progress
import StackLexer.Proofs.Scan.Next
import StackLexer.Proofs.Scan.Calls
import StackLexer.Proofs.Scan.Coverage
import StackLexer.Proofs.Scan.Laziness
import StackLexer.Proofs.Scan.Termination
import StackLexer.Proofs.Scan.Eager
import StackLexer.Proofs.Scan.EmptyMatch
import StackLexer.Proofs.Scan.Memory
import StackLexer.Proofs.Scan.Sharing
import StackLexer.Proofs.Scan.Range
import StackLexer.Proofs.Scan.Nesting
import StackLexer.Proofs.Scan.Independence
import StackLexer.Proofs.Scan.Outline
import StackLexer.Proofs.Scan.Guards
import StackLexer.Proofs.Scan.Recast
import StackLexer.Proofs.Regex.Groups
import StackLexer.Proofs.Scan.Segments
import StackLexer.Proofs.Scan.Splitting
import StackLexer.Proofs.Scan.Provenance
import StackLexer.Proofs.Scan.Callbacks
import StackLexer.Proofs.Loader.Notation
import StackLexer.Proofs.Document.Json
import StackLexer.Proofs.Loader.Image
import StackLexer.Proofs.Loader.Gives
import StackLexer.Proofs.Regex.Preference
import StackLexer.Proofs.Unicode.CharSet
import StackLexer.Proofs.Unicode.Folding
import StackLexer.Proofs.Regex.Meaning
import StackLexer.Proofs.Regex.Simplified
import StackLexer.Proofs.Words.Reading
import StackLexer.Proofs.Words.Meaning
import StackLexer.Proofs.Words
import StackLexer.Proofs.Table.Renaming
import StackLexer.Proofs.Table.Renumbering
import StackLexer.Proofs.Scan.Renaming
import StackLexer.Proofs.Coverage.Check
import StackLexer.Proofs.Coverage.Merge
import StackLexer.Proofs.Text.SelfDelimiting
import StackLexer.Proofs.Text.Quoted
import StackLexer.Proofs.Token.Dump
import StackLexer.Proofs.Scan.Dispatch
