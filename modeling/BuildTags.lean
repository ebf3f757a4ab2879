import BuildTags.Main
import BuildTags.Proofs.Build.Bootstrap
import BuildTags.Proofs.Build.Run
import BuildTags.Proofs.CommandLine.Assignment
import BuildTags.Proofs.CommandLine.Handover
import BuildTags.Proofs.Configuration.Safety
import BuildTags.Proofs.Pattern.Language
import BuildTags.Proofs.Tag.Isolation
import BuildTags.Proofs.Changelog.Agreement
import BuildTags.Proofs.Version.Agreement
import BuildTags.Proofs.Pattern.Scan
import BuildTags.Proofs.Pattern.Steady
import BuildTags.Proofs.Tag.Rearrangement
import BuildTags.Proofs.Pattern.Span
import BuildTags.Proofs.Version.Flattened
import BuildTags.Proofs.Build.RoundTrip
import BuildTags.Proofs.Repository.Listing
import BuildTags.Proofs.Pattern.Descriptor
import BuildTags.Proofs.Repository.Forgery
import BuildTags.Proofs.Repository.Recorded
import BuildTags.Proofs.Version.Decision
import BuildTags.Proofs.Changelog.Fallback
import BuildTags.Proofs.Pattern.Description
import BuildTags.Proofs.Changelog.Keyed
import BuildTags.Proofs.Configuration.Unordered
import BuildTags.Proofs.Changelog.Link
import BuildTags.Proofs.Changelog.Shape
import BuildTags.Proofs.Version.Precedence
import BuildTags.Proofs.CommandLine.Inputs
import BuildTags.Proofs.Pattern.Beginning
