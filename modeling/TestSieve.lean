import TestSieve.Main
import TestSieve.Proofs.Builder.Disjunction
import TestSieve.Proofs.Builder.Predicate
import TestSieve.Proofs.Chain.Attach
import TestSieve.Proofs.CommandLine.Selection
import TestSieve.Proofs.Definition.Calls
import TestSieve.Proofs.Definition.Form
import TestSieve.Proofs.Definition.Meaning
import TestSieve.Proofs.Filter.Depth
import TestSieve.Proofs.Filter.Grammar
import TestSieve.Proofs.Filter.Spelling
import TestSieve.Proofs.Filter.Vocabulary
import TestSieve.Proofs.Filter.WellFormed
import TestSieve.Proofs.Xml.Markup
import TestSieve.Proofs.Definition.Json
import TestSieve.Proofs.Definition.Reorder
import TestSieve.Proofs.Chain.View
import TestSieve.Proofs.Definition.Empty
import TestSieve.Proofs.Filter.Layout
import TestSieve.Proofs.Filter.Polarity
import TestSieve.Proofs.TestCase.Name
import TestSieve.Proofs.TestCase.Json
