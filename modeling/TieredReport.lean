import TieredReport.Main
import TieredReport.Proofs.Cache.Entries
import TieredReport.Proofs.Cache.Requests
import TieredReport.Proofs.Markup.Recovery
import TieredReport.Proofs.Markup.Spelling
import TieredReport.Proofs.Cache.Guarantee
import TieredReport.Proofs.Compiler.Keys
import TieredReport.Proofs.StableSort
import TieredReport.Proofs.Markup.Evaluation
import TieredReport.Proofs.Markup.Caps
import TieredReport.Proofs.Document.Reports
import TieredReport.Proofs.Document.Accounting
import TieredReport.Proofs.Document.Isolation
import TieredReport.Proofs.Engine.Session
import TieredReport.Proofs.Rule.Precedence
import TieredReport.Proofs.Markup.HelperCalls
import TieredReport.Proofs.Markup.Matching
import TieredReport.Proofs.Markup.RootKeys
import TieredReport.Proofs.Cache.Accounting
import TieredReport.Proofs.Compiler.Accounting
import TieredReport.Proofs.Context.Merging
import TieredReport.Proofs.Markup.Nesting
import TieredReport.Proofs.Context.Paths
import TieredReport.Proofs.Markup.Unfolding
import TieredReport.Proofs.Compiler.Verdicts
import TieredReport.Proofs.Compiler.Retention
import TieredReport.Proofs.Cache.Observers
import TieredReport.Proofs.Rule.Conditions
import TieredReport.Proofs.Markup.Quoting
import TieredReport.Proofs.Number.Negation
import TieredReport.Proofs.Amount.Signs
import TieredReport.Proofs.Amount.Grouping
import TieredReport.Proofs.Calendar.Patterns
import TieredReport.Proofs.Calendar.Reading
import TieredReport.Proofs.Helper.Comparison
import TieredReport.Proofs.Calendar.FullPatterns
import TieredReport.Proofs.Template.RoundTrip
