import BlogSnapshot.Frontmatter.Write
import BlogSnapshot.Main
import BlogSnapshot.Proofs.Snapshot.Authorship
import BlogSnapshot.Proofs.Snapshot.Failures
import BlogSnapshot.Proofs.Snapshot.OrderIndependence
import BlogSnapshot.Proofs.Snapshot.Removal
import BlogSnapshot.Proofs.Snapshot.References
import BlogSnapshot.Proofs.Snapshot.RouteLines
import BlogSnapshot.Proofs.Resolution.Reference
import BlogSnapshot.Proofs.Snapshot.Sanitized
import BlogSnapshot.Site.History
import BlogSnapshot.Snapshot.Lazy.Requests
import BlogSnapshot.Snapshot.Lazy.Shared
import BlogSnapshot.Proofs.Yaml.Faults
import BlogSnapshot.Proofs.Yaml.Nodes
import BlogSnapshot.Proofs.Yaml.Values
import BlogSnapshot.Proofs.Snapshot.DisplayOrder
import BlogSnapshot.Proofs.Snapshot.TagBuckets
import BlogSnapshot.Proofs.Post.Stamp
import BlogSnapshot.Proofs.Site.OneSnapshot
import BlogSnapshot.Proofs.Snapshot.Lazy.Interleaving
import BlogSnapshot.Proofs.Snapshot.Surroundings
import BlogSnapshot.Proofs.Source.Splitting
import BlogSnapshot.Proofs.Source.ClosingLine
import BlogSnapshot.Proofs.Calendar.DayNumber
import BlogSnapshot.Proofs.Calendar.UniversalTime
import BlogSnapshot.Proofs.Frontmatter.Timestamp
import BlogSnapshot.Proofs.Calendar.Digits
import BlogSnapshot.Proofs.Calendar.WrittenStamp
import BlogSnapshot.Proofs.Calendar.NativeStamp
import BlogSnapshot.Proofs.Calendar.IsoForm
import BlogSnapshot.Proofs.Frontmatter.Frame
import BlogSnapshot.Proofs.Frontmatter.QuotedTimestamp
import BlogSnapshot.Proofs.Frontmatter.Integer
import BlogSnapshot.Proofs.Resolution.Spelling
import BlogSnapshot.Proofs.Calendar.Millis
import BlogSnapshot.Proofs.Snapshot.PublishTimes
import BlogSnapshot.Proofs.Snapshot.Lazy.FirstSuccess
import BlogSnapshot.Proofs.Frontmatter.PlainScalars
import BlogSnapshot.Proofs.Url.Extension
import BlogSnapshot.Proofs.Files.Loading
import BlogSnapshot.Proofs.Resolution.AuthorKey
import BlogSnapshot.Proofs.Frontmatter.WrittenRecord
