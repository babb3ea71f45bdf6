import WorkspaceHome.AdminForm
import WorkspaceHome.Applications
import WorkspaceHome.Cache
import WorkspaceHome.Config.Basic
import WorkspaceHome.Config.Environment
import WorkspaceHome.Config.Listing
import WorkspaceHome.Config.WordList
import WorkspaceHome.Failure
import WorkspaceHome.GitMetadata
import WorkspaceHome.Health
import WorkspaceHome.Homepage.Basic
import WorkspaceHome.Homepage.Build
import WorkspaceHome.Homepage.PageSlug
import WorkspaceHome.Http.Body
import WorkspaceHome.Http.Context
import WorkspaceHome.Http.Credentials
import WorkspaceHome.Http.HeaderValue
import WorkspaceHome.Http.MediaType
import WorkspaceHome.Http.Message
import WorkspaceHome.Http.Payload
import WorkspaceHome.Http.Problem
import WorkspaceHome.Http.Route
import WorkspaceHome.Http.Serve
import WorkspaceHome.Http.Target
import WorkspaceHome.Http.Trial
import WorkspaceHome.Json.Basic
import WorkspaceHome.Json.Bytes
import WorkspaceHome.Json.Reader
import WorkspaceHome.Json.Writer
import WorkspaceHome.Log
import WorkspaceHome.Number.Binary64
import WorkspaceHome.Number.Numeral
import WorkspaceHome.Number.Shortest
import WorkspaceHome.Operation.Amendment
import WorkspaceHome.Operation.Basic
import WorkspaceHome.Operation.Caller
import WorkspaceHome.Operation.Calls
import WorkspaceHome.Operation.Rows
import WorkspaceHome.Operation.Surroundings
import WorkspaceHome.Presentation
import WorkspaceHome.Proofs.Config.Stages
import WorkspaceHome.Proofs.Except
import WorkspaceHome.Proofs.Fallible
import WorkspaceHome.Proofs.Frame.Detached
import WorkspaceHome.Proofs.Frame.Lenient
import WorkspaceHome.Proofs.Frame.Outlook
import WorkspaceHome.Proofs.Frame.Rows
import WorkspaceHome.Proofs.Frame.Sight
import WorkspaceHome.Proofs.Frame.Upheld
import WorkspaceHome.Proofs.Frame.Writing
import WorkspaceHome.Proofs.Homepage.Arrangement
import WorkspaceHome.Proofs.Homepage.Branches
import WorkspaceHome.Proofs.Homepage.Exact
import WorkspaceHome.Proofs.Homepage.Isolation
import WorkspaceHome.Proofs.Homepage.NewReleases
import WorkspaceHome.Proofs.Homepage.Opening
import WorkspaceHome.Proofs.Homepage.Outlook
import WorkspaceHome.Proofs.Homepage.PageSlug
import WorkspaceHome.Proofs.Homepage.Present
import WorkspaceHome.Proofs.Homepage.Promotion
import WorkspaceHome.Proofs.Homepage.Shape
import WorkspaceHome.Proofs.Homepage.Shown
import WorkspaceHome.Proofs.Homepage.Unaffected
import WorkspaceHome.Proofs.Homepage.Versions
import WorkspaceHome.Proofs.Http.Anonymous
import WorkspaceHome.Proofs.Http.Answer
import WorkspaceHome.Proofs.Http.Bounds
import WorkspaceHome.Proofs.Http.Context
import WorkspaceHome.Proofs.Http.Creation
import WorkspaceHome.Proofs.Http.Delivery
import WorkspaceHome.Proofs.Http.Discretion
import WorkspaceHome.Proofs.Http.Homepage
import WorkspaceHome.Proofs.Http.Lookup
import WorkspaceHome.Proofs.Http.Members
import WorkspaceHome.Proofs.Http.Opening
import WorkspaceHome.Proofs.Http.Sendable
import WorkspaceHome.Proofs.Http.Serve
import WorkspaceHome.Proofs.Json.Everywhere
import WorkspaceHome.Proofs.Json.Proper
import WorkspaceHome.Proofs.Json.Same
import WorkspaceHome.Proofs.Lookup
import WorkspaceHome.Proofs.Number.Key
import WorkspaceHome.Proofs.Number.Numeral
import WorkspaceHome.Proofs.Operation.Absence
import WorkspaceHome.Proofs.Operation.Advance
import WorkspaceHome.Proofs.Operation.Badge
import WorkspaceHome.Proofs.Operation.Caller
import WorkspaceHome.Proofs.Operation.Consistency
import WorkspaceHome.Proofs.Operation.History
import WorkspaceHome.Proofs.Operation.Independence
import WorkspaceHome.Proofs.Operation.Invariant
import WorkspaceHome.Proofs.Operation.Ownership
import WorkspaceHome.Proofs.Operation.Platform
import WorkspaceHome.Proofs.Operation.Reachable
import WorkspaceHome.Proofs.Operation.Slugs
import WorkspaceHome.Proofs.Operation.Visit
import WorkspaceHome.Proofs.Recency.Agreement
import WorkspaceHome.Proofs.Recency.Buckets
import WorkspaceHome.Proofs.Recency.Distinct
import WorkspaceHome.Proofs.Recency.History
import WorkspaceHome.Proofs.Recency.Order
import WorkspaceHome.Proofs.Recency.Stored
import WorkspaceHome.Proofs.Records
import WorkspaceHome.Proofs.ReleaseNotes.Client
import WorkspaceHome.Proofs.ReleaseNotes.Failures
import WorkspaceHome.Proofs.ReleaseNotes.Freshness
import WorkspaceHome.Proofs.ReleaseNotes.News
import WorkspaceHome.Proofs.ReleaseNotes.Newsroom
import WorkspaceHome.Proofs.ReleaseNotes.Outcome
import WorkspaceHome.Proofs.ReleaseNotes.Payload
import WorkspaceHome.Proofs.ReleaseNotes.Query
import WorkspaceHome.Proofs.ReleaseNotes.Reading
import WorkspaceHome.Proofs.ReleaseNotes.Supply
import WorkspaceHome.Proofs.ReleaseNotes.Transparency
import WorkspaceHome.Proofs.Remembrance
import WorkspaceHome.Proofs.Service
import WorkspaceHome.Proofs.Sorting
import WorkspaceHome.Proofs.Store.Alike
import WorkspaceHome.Proofs.Store.Consistent
import WorkspaceHome.Proofs.Store.Deletion
import WorkspaceHome.Proofs.Store.Distinct
import WorkspaceHome.Proofs.Store.Evolution
import WorkspaceHome.Proofs.Store.Groups
import WorkspaceHome.Proofs.Store.Keys
import WorkspaceHome.Proofs.Store.Local
import WorkspaceHome.Proofs.Store.Recollection
import WorkspaceHome.Proofs.Store.Regular
import WorkspaceHome.Proofs.Store.Revision
import WorkspaceHome.Proofs.Store.Savable
import WorkspaceHome.Proofs.Store.Slugs
import WorkspaceHome.Proofs.Store.Step
import WorkspaceHome.Proofs.Store.Table
import WorkspaceHome.Proofs.Store.UserData
import WorkspaceHome.Proofs.Store.Write
import WorkspaceHome.Proofs.Text.Percent
import WorkspaceHome.Proofs.Text.Slug
import WorkspaceHome.Proofs.Workspaces
import WorkspaceHome.Recency
import WorkspaceHome.ReleaseNotes.Client
import WorkspaceHome.ReleaseNotes.Feed
import WorkspaceHome.ReleaseNotes.Node
import WorkspaceHome.Remembrance
import WorkspaceHome.Settings
import WorkspaceHome.Site
import WorkspaceHome.Store.Basic
import WorkspaceHome.Store.Query
import WorkspaceHome.Store.Table
import WorkspaceHome.Store.Write
import WorkspaceHome.Text.AsciiFold
import WorkspaceHome.Text.Base64
import WorkspaceHome.Text.CodePoint
import WorkspaceHome.Text.Digit
import WorkspaceHome.Text.Percent
import WorkspaceHome.Text.Printable
import WorkspaceHome.Text.Quoted
import WorkspaceHome.Text.Slug
import WorkspaceHome.Text.Utf8
import WorkspaceHome.Timestamp
import WorkspaceHome.Url.Basic
import WorkspaceHome.Url.Defect
import WorkspaceHome.Url.Ip
import WorkspaceHome.Url.Label
import WorkspaceHome.Url.Library
import WorkspaceHome.Url.Punycode
import WorkspaceHome.Workspaces
