import KeywordGrammar.Main
import KeywordGrammar.Pattern.Search
import KeywordGrammar.Pattern.Starts
import KeywordGrammar.Proofs.Ownership
import KeywordGrammar.Proofs.Routing
import KeywordGrammar.Proofs.Alternations
import KeywordGrammar.Proofs.Matches
import KeywordGrammar.Proofs.Words
import KeywordGrammar.Proofs.WholeWords
import KeywordGrammar.Proofs.RuleLists
import KeywordGrammar.Proofs.WordClasses
import KeywordGrammar.Proofs.GeneratedRules
import KeywordGrammar.Proofs.OwnTerms
import KeywordGrammar.Proofs.JsonReaders
import KeywordGrammar.Proofs.PrintedValues
import KeywordGrammar.Proofs.Documents
import KeywordGrammar.Proofs.Mappings
import KeywordGrammar.Proofs.RunOutcomes
import KeywordGrammar.Proofs.Escaping
import KeywordGrammar.Proofs.Rearrangements
import KeywordGrammar.Proofs.Revisions
import KeywordGrammar.Proofs.Summaries
import KeywordGrammar.Proofs.RuleSizes
import KeywordGrammar.Proofs.PopulationFiles
import KeywordGrammar.Proofs.Arguments
import KeywordGrammar.Proofs.Calls
import KeywordGrammar.Proofs.LowercaseForms
import KeywordGrammar.Proofs.Spellings
import KeywordGrammar.Proofs.TermMatches
import KeywordGrammar.Proofs.Stability
import KeywordGrammar.Proofs.EmptyTerms
import KeywordGrammar.Proofs.RepeatedKeys
import KeywordGrammar.Proofs.CanonicalCandidates
import KeywordGrammar.Proofs.Lookahead
import KeywordGrammar.Proofs.Truncation
import KeywordGrammar.Proofs.OptionSpellings
import KeywordGrammar.Proofs.ArgumentOutcomes
import KeywordGrammar.Proofs.TermLines
import KeywordGrammar.Proofs.SetSizes
import KeywordGrammar.Proofs.GreedyRuns
import KeywordGrammar.Proofs.BareWords
import KeywordGrammar.Proofs.LineExtents
import KeywordGrammar.Proofs.Directives
import KeywordGrammar.Proofs.FileNames
