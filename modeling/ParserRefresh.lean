import ParserRefresh.Files.Changes
import ParserRefresh.Proofs.Blame
import ParserRefresh.Proofs.ByHand
import ParserRefresh.Proofs.CharacterBytes
import ParserRefresh.Proofs.CodeReading
import ParserRefresh.Proofs.CodeTokens
import ParserRefresh.Proofs.CommentBytes
import ParserRefresh.Proofs.CommentCuts
import ParserRefresh.Proofs.ConfigurationLayers
import ParserRefresh.Proofs.Division
import ParserRefresh.Proofs.ExtractedSlices
import ParserRefresh.Proofs.HandedGrammar
import ParserRefresh.Proofs.InlinedText
import ParserRefresh.Proofs.ModuleBoundaries
import ParserRefresh.Proofs.NamedAttributes
import ParserRefresh.Proofs.Nesting
import ParserRefresh.Proofs.PackagedBody
import ParserRefresh.Proofs.PackagedLiteral
import ParserRefresh.Proofs.ProgramRuns
import ParserRefresh.Proofs.RefreshSteps
import ParserRefresh.Proofs.Residue
import ParserRefresh.Proofs.RuleDivision
import ParserRefresh.Proofs.RuleRegions
import ParserRefresh.Proofs.RuleRoundTrip
import ParserRefresh.Proofs.SamePrelude
import ParserRefresh.Proofs.SecondRefresh
import ParserRefresh.Proofs.SingleWalk
import ParserRefresh.Proofs.Spellings
import ParserRefresh.Proofs.SpliceHistory
import ParserRefresh.Proofs.TestDivision
import ParserRefresh.Proofs.TestModules
import ParserRefresh.Proofs.TidyLines
import ParserRefresh.Proofs.Ways
import ParserRefresh.Proofs.WrittenFiles
import ParserRefresh.Text.Lines
