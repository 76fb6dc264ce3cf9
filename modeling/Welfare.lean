import Welfare.Briefing
import Welfare.Http.Api
import Welfare.Main
import Welfare.Proofs.Assessment.Reckoning
import Welfare.Proofs.Double.Finite
import Welfare.Proofs.Json.Order
import Welfare.Proofs.Json.Records
import Welfare.Proofs.Screening.Relevance
import Welfare.Proofs.Screening.Survival
import Welfare.Proofs.Json.Fields
import Welfare.Proofs.Json.AnyOrder
import Welfare.Proofs.Rule.Operator
import Welfare.Proofs.Rule.Codec
import Welfare.Proofs.Scheme.Codec
import Welfare.Proofs.Catalog.Attachment
import Welfare.Proofs.Catalog.RoundTrip
import Welfare.Proofs.Screening.Codec
import Welfare.Proofs.Json.Text
import Welfare.Proofs.Text.Percent
import Welfare.Proofs.Text.Trimming
import Welfare.Proofs.Text.Numeral
import Welfare.Proofs.Http.Reachable
import Welfare.Proofs.Http.Posts
import Welfare.Proofs.EntryPoints
import Welfare.Proofs.Decimal.Characters
import Welfare.Proofs.Assessment.Trail
import Welfare.Proofs.Keyed
import Welfare.Proofs.Catalog.Checks
import Welfare.Proofs.Catalog.Loading
import Welfare.Proofs.Json.ByField
import Welfare.Proofs.Scheme.Fields
import Welfare.Proofs.Catalog.Inline
import Welfare.Proofs.Catalog.Edits
import Welfare.Proofs.Json.Accepts
import Welfare.Proofs.Catalog.Grammar
import Welfare.Proofs.Assessment.Inert
import Welfare.Proofs.Assessment.Refusal
import Welfare.Proofs.Assessment.Monotone
import Welfare.Proofs.Assessment.RuleOrder
import Welfare.Proofs.Assessment.UnknownOperator
import Welfare.Proofs.Profile.Places
import Welfare.Proofs.Profile.BareName
import Welfare.Proofs.Profile.Identity
import Welfare.Proofs.Double.Numbers
import Welfare.Proofs.Json.Equality
import Welfare.Proofs.Operator.Reading
import Welfare.Proofs.Operator.Equality
import Welfare.Proofs.Operator.Order
import Welfare.Proofs.Operator.Integers
import Welfare.Proofs.Catalog.Attaching
import Welfare.Proofs.Screening.Sorting
import Welfare.Proofs.Screening.Views
import Welfare.Proofs.Command.Evaluation
import Welfare.Proofs.Libraries
import Welfare.Proofs.Settings.Loading
import Welfare.Proofs.Settings.Exactness
import Welfare.Proofs.Command.Overruling
