import Shortlink.Alias
import Shortlink.Binary64
import Shortlink.Catalog
import Shortlink.Client.Address
import Shortlink.Client.Connection
import Shortlink.Client.Failure
import Shortlink.Client.Table
import Shortlink.CommandLine.Command
import Shortlink.CommandLine.Reader
import Shortlink.CommandLine.Run
import Shortlink.Json.Basic
import Shortlink.Json.Reader
import Shortlink.Json.Writer
import Shortlink.Link
import Shortlink.Log.Event
import Shortlink.Log.Level
import Shortlink.Log.Message
import Shortlink.Log.Number
import Shortlink.Log.Setup
import Shortlink.Log.Value
import Shortlink.Lookup
import Shortlink.Main
import Shortlink.Paging
import Shortlink.Path
import Shortlink.Redirect
import Shortlink.Settings
import Shortlink.Settings.Environment
import Shortlink.Settings.File
import Shortlink.Similarity.Ratio
import Shortlink.Similarity.Subsequence
import Shortlink.Store
import Shortlink.Store.Basic
import Shortlink.Store.File
import Shortlink.Store.Location
import Shortlink.Store.Memory
import Shortlink.Store.Table
import Shortlink.Suggestion
import Shortlink.Template
import Shortlink.Text.Blank
import Shortlink.Text.CaseTable
import Shortlink.Text.CodeRange
import Shortlink.Text.Digits
import Shortlink.Text.LowerCase
import Shortlink.Text.Percent
import Shortlink.Text.PrintableTable
import Shortlink.Text.Quoted
import Shortlink.Text.Replace
import Shortlink.Text.Spelling
import Shortlink.Text.SpellingTable
import Shortlink.Text.Utf8
import Shortlink.Timestamp.Basic
import Shortlink.Timestamp.Epoch
import Shortlink.Timestamp.Reader
import Shortlink.Url.Address
import Shortlink.Url.Split
import Shortlink.Version
import Shortlink.Web.App
import Shortlink.Web.Location
import Shortlink.Web.Message
import Shortlink.Web.Number
import Shortlink.Web.Query
import Shortlink.Web.Route
import Shortlink.Web.SignInPage
import Shortlink.Web.Site
import Shortlink.Web.Validation
import Shortlink.Proofs.Alias
import Shortlink.Proofs.Store.Call
import Shortlink.Proofs.Catalog.Run
import Shortlink.Proofs.Catalog.Transparency
import Shortlink.Proofs.Catalog.Uniqueness
import Shortlink.Proofs.Store.Failure
import Shortlink.Proofs.Store.Agreement
import Shortlink.Proofs.Text.Digits
import Shortlink.Proofs.Text.Utf8
import Shortlink.Proofs.Text.Percent
import Shortlink.Proofs.Template
import Shortlink.Proofs.Braces
import Shortlink.Proofs.Lookup
import Shortlink.Proofs.Timestamp
import Shortlink.Proofs.Json.Strings
import Shortlink.Proofs.Json.RoundTrip
import Shortlink.Proofs.Store.Durability
import Shortlink.Proofs.Store.Opening
import Shortlink.Proofs.Store.Managed
import Shortlink.Proofs.Steps
import Shortlink.Proofs.Web.Handling
import Shortlink.Proofs.Store.Keyed
import Shortlink.Proofs.Catalog.Tidiness
import Shortlink.Proofs.Text.Cutting
import Shortlink.Proofs.Text.Escapes
import Shortlink.Proofs.Text.Decoding
import Shortlink.Proofs.Web.Routing
import Shortlink.Proofs.Web.Gateway
import Shortlink.Proofs.Web.Effect
import Shortlink.Proofs.Web.Target
import Shortlink.Proofs.Web.Reach
import Shortlink.Proofs.Web.Creation
import Shortlink.Proofs.Filling
import Shortlink.Proofs.Verbatim
import Shortlink.Proofs.Web.Success
import Shortlink.Proofs.Web.Managing
import Shortlink.Proofs.Client.Address
import Shortlink.Proofs.Web.Growth
import Shortlink.Proofs.Web.Listing
import Shortlink.Proofs.Client.Paging
import Shortlink.Proofs.Web.Pages
import Shortlink.Proofs.Url.Split
import Shortlink.Proofs.Url.Origin
import Shortlink.Proofs.Url.Family
import Shortlink.Proofs.Client.Asking
import Shortlink.Proofs.Preview
import Shortlink.Proofs.Redirect
import Shortlink.Proofs.Binary64
import Shortlink.Proofs.Similarity.Subsequence
import Shortlink.Proofs.Similarity.Scores
import Shortlink.Proofs.Suggestion.Ranking
import Shortlink.Proofs.Suggestion.Score
import Shortlink.Proofs.Catalog.Queries
import Shortlink.Proofs.Web.Search
import Shortlink.Proofs.Web.Landing
import Shortlink.Proofs.Web.Spelling
import Shortlink.Proofs.Log.Line
import Shortlink.Proofs.Client.Table
import Shortlink.Proofs.Suggestion.Later
import Shortlink.Proofs.Web.Suggesting
import Shortlink.Proofs.Web.Spaces
import Shortlink.Proofs.Suggestion.Words
