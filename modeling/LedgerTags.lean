import LedgerTags.Main
import LedgerTags.Proofs.Outcome
import LedgerTags.Proofs.Sorting
import LedgerTags.Proofs.Counting
import LedgerTags.Proofs.Paths
import LedgerTags.Proofs.TagSets
import LedgerTags.Proofs.RuleSelection
import LedgerTags.Proofs.Octets
import LedgerTags.Proofs.Annotation
import LedgerTags.Proofs.Numerals
import LedgerTags.Proofs.Trimming
import LedgerTags.Proofs.DecimalText
import LedgerTags.Proofs.Magnitudes
import LedgerTags.Proofs.Rounding
import LedgerTags.Proofs.ShortestText
import LedgerTags.Proofs.JsonText
import LedgerTags.Proofs.JsonNumber
import LedgerTags.Proofs.JsonDocument
import LedgerTags.Proofs.Display
import LedgerTags.Proofs.DateText
import LedgerTags.Proofs.Mapping
import LedgerTags.Proofs.Lines
import LedgerTags.Proofs.Reflexivity
import LedgerTags.Proofs.RoundTrip
import LedgerTags.Proofs.JsonPrefix
import LedgerTags.Proofs.Layouts
import LedgerTags.Proofs.Filtering
import LedgerTags.Proofs.Merging
import LedgerTags.Proofs.MergeLaws
import LedgerTags.Proofs.ContextRounding
import LedgerTags.Proofs.Interruption
import LedgerTags.Proofs.BrokenTaxonomies
import LedgerTags.Proofs.Thresholds
import LedgerTags.Proofs.FieldKinds
import LedgerTags.Proofs.BinaryText
import LedgerTags.Proofs.RefusedArguments
import LedgerTags.Proofs.Overflow
import LedgerTags.Proofs.UsableAmounts
import LedgerTags.Proofs.AnnotatedMapping
import LedgerTags.Proofs.ValidDocuments
import LedgerTags.Proofs.LatestDate
import LedgerTags.Proofs.Ordinals
import LedgerTags.Proofs.Composition
import LedgerTags.Proofs.StableSorting
import LedgerTags.Proofs.ValueOrder
import LedgerTags.Proofs.RecordOrder
import LedgerTags.Proofs.SortedFilters
import LedgerTags.Proofs.KeyEquality
import LedgerTags.Proofs.Tallies
import LedgerTags.Proofs.ExactCounts
import LedgerTags.Proofs.PeriodGrammar
import LedgerTags.Proofs.Grouping
import LedgerTags.Proofs.PeriodGroups
import LedgerTags.Proofs.DateFilters
import LedgerTags.Proofs.ArgumentErrors
import LedgerTags.Proofs.Searching
import LedgerTags.Proofs.DecimalSums
import LedgerTags.Proofs.PeriodTotals
import LedgerTags.Proofs.LetterCase
import LedgerTags.Proofs.CaseFolding
import LedgerTags.Proofs.RelatedTexts
import LedgerTags.Proofs.LoweredDescriptions
import LedgerTags.Proofs.PeriodStarts
import LedgerTags.Proofs.Installation
import LedgerTags.Proofs.LiteralPatterns
import LedgerTags.Proofs.ShippedTaxonomy
import LedgerTags.Proofs.DateOption
import LedgerTags.Proofs.TagOrder
