import Transliteration.Main
import Transliteration.Proofs.CommandLine.Override
import Transliteration.Proofs.CommandLine.Persistence
import Transliteration.Proofs.CommandLine.Switching
import Transliteration.Proofs.Decomposition.Constituents
import Transliteration.Proofs.Decomposition.Order
import Transliteration.Proofs.Decomposition.Warnings
import Transliteration.Proofs.Document.Reporting
import Transliteration.Proofs.Formula.Literal
import Transliteration.Proofs.Pattern.Acceptance
import Transliteration.Proofs.Pattern.Anchoring
import Transliteration.Proofs.Pattern.History
import Transliteration.Proofs.Record.Building
import Transliteration.Proofs.Record.RoundTrip
import Transliteration.Proofs.Regex.Reading.Retracing
import Transliteration.Proofs.Regex.Reading.RetracingBracket
import Transliteration.Proofs.Registry.Bookkeeping
import Transliteration.Proofs.Registry.Deferral
import Transliteration.Proofs.Rule.Slices
import Transliteration.Proofs.RuleSet.Isolation
import Transliteration.Proofs.RuleSet.Lifecycle
import Transliteration.Proofs.Scan.Consumption
import Transliteration.Proofs.Scan.Segmentation
import Transliteration.Proofs.Shipped.Romanization
import Transliteration.Shipped
