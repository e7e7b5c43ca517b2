import LoadScript.Main
import LoadScript.Session
import LoadScript.Tree.Search
import LoadScript.Proofs.Text.Slice
import LoadScript.Proofs.Scan.LaterWords
import LoadScript.Proofs.Scan.Pieces
import LoadScript.Proofs.Scan.Tiling
import LoadScript.Proofs.Tree.Conservation
import LoadScript.Proofs.Tree.ParenScan
import LoadScript.Proofs.Tree.Segments
import LoadScript.Proofs.Tree.Places
import LoadScript.Proofs.Tree.Matching
import LoadScript.Proofs.Tree.Placement
import LoadScript.Proofs.Unicode.Characters
import LoadScript.Proofs.Vocabulary.Lookup
import LoadScript.Proofs.Scan.PlainPieces
import LoadScript.Proofs.Scan.AcceptedWords
import LoadScript.Proofs.Scan.Regrouping
import LoadScript.Proofs.Vocabulary.Entries
import LoadScript.Proofs.Scan.LongestMatch
import LoadScript.Proofs.Scan.Concatenation
import LoadScript.Proofs.Scan.Shift
import LoadScript.Proofs.Tree.Shift
import LoadScript.Proofs.Tree.Resumption
import LoadScript.Proofs.SortedProblems
import LoadScript.Proofs.Synchronization
import LoadScript.Proofs.Scan.Remarks
import LoadScript.Proofs.Scan.Settled
import LoadScript.Proofs.Terminators
import LoadScript.Proofs.Tree.Ranges
import LoadScript.Proofs.Tree.Truncation
import LoadScript.Proofs.NestingLimit
import LoadScript.Proofs.Scan.LetterCase
import LoadScript.Proofs.CaseBlindness
import LoadScript.Proofs.Scan.SameFront
import LoadScript.Proofs.Scan.WordsAhead
import LoadScript.Proofs.Scan.Layout
import LoadScript.Proofs.Scan.Numbering
import LoadScript.Proofs.LayoutIndependence
import LoadScript.Proofs.KeywordIndependence
import LoadScript.Proofs.Tree.NodeSpans
import LoadScript.Proofs.LexicalGrammar
import LoadScript.Proofs.ListedKeywords
import LoadScript.Proofs.Tree.InnermostNode
import LoadScript.Proofs.SkippedText
import LoadScript.Proofs.Vocabulary.Index
import LoadScript.Proofs.VocabularyExtension
import LoadScript.Proofs.Positions
import LoadScript.Proofs.Unicode.UpperCase
import LoadScript.Proofs.Vocabulary.CanonicalSpelling
import LoadScript.Proofs.Text.Lines
import LoadScript.Proofs.Tree.OutlineLines
import LoadScript.Proofs.Json.Literals
import LoadScript.Proofs.Json.RoundTrip
import LoadScript.Proofs.PrintedVocabulary
import LoadScript.Proofs.Files.Access
import LoadScript.Proofs.Json.Numbers
import LoadScript.Proofs.Settings.Loading
import LoadScript.Proofs.FileChecks
import LoadScript.Proofs.SavedSettings
import LoadScript.Proofs.Json.Records
import LoadScript.Proofs.Settings.Sources
import LoadScript.Proofs.EffectiveSettings
import LoadScript.Proofs.TokenListing
import LoadScript.Proofs.Scan.GapSteps
