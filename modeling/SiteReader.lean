import SiteReader.Rule.Template
import SiteReader.Client
import SiteReader.Source.File
import SiteReader.Command.Run
import SiteReader.Main
import SiteReader.Proofs.Gateway.Session
import SiteReader.Proofs.Gateway.Exchange
import SiteReader.Proofs.Gateway.Approval
import SiteReader.Proofs.Credential.Store
import SiteReader.Proofs.Header
import SiteReader.Proofs.Gateway.Secrets
import SiteReader.Proofs.Address.Numeral
import SiteReader.Proofs.Address.Ipv4
import SiteReader.Proofs.Address.Ipv6
import SiteReader.Proofs.Url.Host
import SiteReader.Proofs.Url.Split
import SiteReader.Proofs.Url.Spelling
import SiteReader.Proofs.Gateway.Destination
import SiteReader.Proofs.Gateway.Spelling
import SiteReader.Proofs.Url.Connection
import SiteReader.Proofs.Gateway.Connection
import SiteReader.Proofs.Gateway.Acceptance
import SiteReader.Proofs.Path.Grammar
import SiteReader.Proofs.Path.Parser
import SiteReader.Proofs.Entry
import SiteReader.Proofs.Json.Grammar
import SiteReader.Proofs.Json.Literal
import SiteReader.Proofs.Json.Reader
import SiteReader.Proofs.Json.Printer
import SiteReader.Proofs.Directive.Relaxed
import SiteReader.Proofs.Directive.Split
import SiteReader.Proofs.Directive.Parser
import SiteReader.Proofs.Tree.Walk
import SiteReader.Proofs.Path.Search
import SiteReader.Proofs.Json.Keys
import SiteReader.Proofs.Credential.Record
import SiteReader.Proofs.Credential.History
import SiteReader.Proofs.Credential.Lasting
import SiteReader.Proofs.Gateway.Files
import SiteReader.Proofs.Command.Store
import SiteReader.Proofs.Number.Range
import SiteReader.Proofs.Gateway.Payload
import SiteReader.Proofs.Gateway.Service
import SiteReader.Proofs.Number.Order
import SiteReader.Proofs.Url.Join
import SiteReader.Proofs.Gateway.Redirects
import SiteReader.Proofs.Gateway.Ending
import SiteReader.Proofs.Gateway.Deadline
import SiteReader.Proofs.Text.Mark
import SiteReader.Proofs.Rule.Alternatives
import SiteReader.Proofs.Document.Text
import SiteReader.Proofs.Client.Request
import SiteReader.Proofs.Client.Header
import SiteReader.Proofs.Client.Cookie
import SiteReader.Proofs.Command.Line
import SiteReader.Proofs.Command.Setting
import SiteReader.Proofs.Command.Cookies
import SiteReader.Proofs.Number.Integer
import SiteReader.Proofs.Number.Numeral
import SiteReader.Proofs.Path.Evaluation
import SiteReader.Proofs.Path.Comparison
import SiteReader.Proofs.Rule.Reading
import SiteReader.Proofs.Rule.Whole
import SiteReader.Proofs.Excerpt.Place
import SiteReader.Proofs.Excerpt.Fault
import SiteReader.Proofs.Document.Fault
import SiteReader.Proofs.Path.Address
import SiteReader.Proofs.Directive.Unchanged
import SiteReader.Proofs.Text.Letter
import SiteReader.Proofs.Rule.Script
import SiteReader.Proofs.Rule.Template
import SiteReader.Proofs.Text.Lower
import SiteReader.Proofs.Address.Written
import SiteReader.Proofs.Url.Canonical
import SiteReader.Proofs.File.Replacement
import SiteReader.Proofs.Credential.Trouble
import SiteReader.Proofs.Gateway.BrokenStore
import SiteReader.Proofs.Url.Origin
import SiteReader.Proofs.Credential.Origin
import SiteReader.Proofs.Gateway.Disruption
import SiteReader.Proofs.Gateway.Answer
import SiteReader.Proofs.Gateway.Fields
import SiteReader.Proofs.Gateway.Body
import SiteReader.Proofs.Gateway.TimeLimit
import SiteReader.Proofs.Client.Preparation
import SiteReader.Proofs.Url.Written
import SiteReader.Proofs.Gateway.BlockList
import SiteReader.Proofs.Url.Escape
import SiteReader.Proofs.Url.Relay
import SiteReader.Proofs.Gateway.Relay
import SiteReader.Proofs.Markup.Spot
import SiteReader.Proofs.Selector.Scope
import SiteReader.Proofs.Excerpt.Chain
import SiteReader.Proofs.Notes
import SiteReader.Proofs.Document.Note
import SiteReader.Proofs.Document.Row
import SiteReader.Proofs.Document.Script
import SiteReader.Proofs.Document.Marker
import SiteReader.Proofs.Excerpt.Alternatives
import SiteReader.Proofs.Excerpt.Written
import SiteReader.Proofs.Tree.Display
import SiteReader.Proofs.Directive.Header
