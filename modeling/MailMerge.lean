import MailMerge.Json.Compact
import MailMerge.Json.Report
import MailMerge.Proofs.Walk
import MailMerge.Proofs.Verbatim
import MailMerge.Settings.Basic
import MailMerge.Web.Site
import MailMerge.Proofs.Failures
import MailMerge.Proofs.Nesting
import MailMerge.Proofs.Misreading
import MailMerge.Proofs.InPlace
import MailMerge.Proofs.Storage
import MailMerge.Proofs.Success
import MailMerge.Proofs.Children
import MailMerge.Proofs.Outcomes
import MailMerge.Proofs.TokenOrder
import MailMerge.Proofs.Answers
import MailMerge.Proofs.Descriptions
import MailMerge.Proofs.Renewal
import MailMerge.Proofs.Labels
import MailMerge.Proofs.Gaps
import MailMerge.Proofs.Accounts
import MailMerge.Proofs.Coverage
import MailMerge.Proofs.Overrides
import MailMerge.Proofs.Minutes
import MailMerge.Proofs.Lossless
import MailMerge.Proofs.Items
import MailMerge.Proofs.Columns
import MailMerge.Proofs.Disclosure
import MailMerge.Proofs.Sections
import MailMerge.Proofs.Titles
import MailMerge.Proofs.Itinerary
import MailMerge.Proofs.TokenLayout
import MailMerge.Proofs.Wordings
import MailMerge.Proofs.Conditions
import MailMerge.Proofs.Links
import MailMerge.Proofs.Explanations
