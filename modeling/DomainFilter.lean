import DomainFilter.Document.Load
import DomainFilter.Reference.Single
import DomainFilter.Proofs.Domain.Conjunction
import DomainFilter.Proofs.Document.Contract
import DomainFilter.Proofs.Domain.RoundTrip
import DomainFilter.Proofs.Domain.Built
import DomainFilter.Proofs.Domain.Grammar
import DomainFilter.Proofs.Domain.Substitution
import DomainFilter.Proofs.Verdict.ContextOnly
import DomainFilter.Proofs.Verdict.Dependence
import DomainFilter.Proofs.Verdict.Equality
import DomainFilter.Proofs.Verdict.PeriodFilter
import DomainFilter.Proofs.Text.Wildcard
import DomainFilter.Proofs.Verdict.ManyRecords
import DomainFilter.Proofs.Text.Lowercase
import DomainFilter.Proofs.Verdict.LetterCase
import DomainFilter.Proofs.Verdict.Ordering
import DomainFilter.Proofs.Verdict.Numbers
import DomainFilter.Proofs.Calendar.Tiling
import DomainFilter.Proofs.Calendar.Ends
import DomainFilter.Proofs.Verdict.Instants
import DomainFilter.Proofs.Calendar.InstantReading
import DomainFilter.Proofs.Value.Encodings
import DomainFilter.Proofs.Verdict.StoredNumbers
import DomainFilter.Proofs.Verdict.OwnField
import DomainFilter.Proofs.Reference.Paths
import DomainFilter.Proofs.Domain.AddedCondition
import DomainFilter.Proofs.Verdict.Negation
import DomainFilter.Proofs.Verdict.Membership
import DomainFilter.Proofs.Document.WellFormed
import DomainFilter.Proofs.Domain.JsonText
