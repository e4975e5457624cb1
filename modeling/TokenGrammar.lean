import TokenGrammar.CommandLine.Arguments
import TokenGrammar.CommandLine.Run
import TokenGrammar.Cursor
import TokenGrammar.Decimal.Layout
import TokenGrammar.Decimal.Shortest
import TokenGrammar.Expectation
import TokenGrammar.Expectation.Tokens
import TokenGrammar.Expectation.Values
import TokenGrammar.Fault
import TokenGrammar.Json
import TokenGrammar.Main
import TokenGrammar.Matcher
import TokenGrammar.Matcher.Display
import TokenGrammar.Matcher.Library
import TokenGrammar.Output
import TokenGrammar.Proofs.ChainGrammars
import TokenGrammar.Proofs.ChainLanguages
import TokenGrammar.Proofs.CharacterClasses
import TokenGrammar.Proofs.CommittedMatches
import TokenGrammar.Proofs.CompactReadings
import TokenGrammar.Proofs.CompactSigns
import TokenGrammar.Proofs.Conversations
import TokenGrammar.Proofs.CoveredSources
import TokenGrammar.Proofs.DerivationTrees
import TokenGrammar.Proofs.Derivations
import TokenGrammar.Proofs.Enumeration
import TokenGrammar.Proofs.Events
import TokenGrammar.Proofs.FactoredAlternations
import TokenGrammar.Proofs.HashedTables
import TokenGrammar.Proofs.JsonBlanks
import TokenGrammar.Proofs.JsonGrammar
import TokenGrammar.Proofs.JsonReading
import TokenGrammar.Proofs.JsonValues
import TokenGrammar.Proofs.Junctions
import TokenGrammar.Proofs.LayeredSettings
import TokenGrammar.Proofs.LexicalGrammar
import TokenGrammar.Proofs.Locality
import TokenGrammar.Proofs.MatchReports
import TokenGrammar.Proofs.OpenStrings
import TokenGrammar.Proofs.RepeatedSequences
import TokenGrammar.Proofs.RepetitionOrder
import TokenGrammar.Proofs.SamePattern
import TokenGrammar.Proofs.SearchLog
import TokenGrammar.Proofs.SelfDelimiting
import TokenGrammar.Proofs.Sessions
import TokenGrammar.Proofs.Snippets
import TokenGrammar.Proofs.SpanTiling
import TokenGrammar.Proofs.StreamIndependence
import TokenGrammar.Proofs.Streams
import TokenGrammar.Proofs.StringLiterals
import TokenGrammar.Proofs.StructuralTexts
import TokenGrammar.Proofs.Termination
import TokenGrammar.Proofs.TokenConservation
import TokenGrammar.Proofs.TreeShapes
import TokenGrammar.Proofs.UnboundedRepetition
import TokenGrammar.Proofs.Worklist
import TokenGrammar.Search
import TokenGrammar.Search.Derive
import TokenGrammar.Search.Matching
import TokenGrammar.Search.Record
import TokenGrammar.Search.Worklist
import TokenGrammar.Session
import TokenGrammar.Settings
import TokenGrammar.Settings.Entry
import TokenGrammar.Settings.Path
import TokenGrammar.Settings.Reading
import TokenGrammar.Text.Bytes
import TokenGrammar.Text.Cased
import TokenGrammar.Text.Hidden
import TokenGrammar.Text.Letter
import TokenGrammar.Text.LowerCase
import TokenGrammar.Text.Numeric
import TokenGrammar.Text.Pieces
import TokenGrammar.Text.Quoted
import TokenGrammar.Text.RangeTable
import TokenGrammar.Text.Terminal
import TokenGrammar.Token
import TokenGrammar.Token.Lexeme
import TokenGrammar.Token.Tokenize
import TokenGrammar.Toml
import TokenGrammar.Toml.Document
import TokenGrammar.Toml.Number
import TokenGrammar.Toml.Quoted
import TokenGrammar.Value
import TokenGrammar.Value.Transform
