import DeviceLogin.Act
import DeviceLogin.Authorization
import DeviceLogin.Channel
import DeviceLogin.Client
import DeviceLogin.CommandMap.Basic
import DeviceLogin.CommandMap.Writer
import DeviceLogin.Cookie.Basic
import DeviceLogin.Cookie.Jar
import DeviceLogin.Failure
import DeviceLogin.Files.Access
import DeviceLogin.Files.Path
import DeviceLogin.Http.Client
import DeviceLogin.Http.Exchange
import DeviceLogin.Http.Sender
import DeviceLogin.Incident
import DeviceLogin.Ircc
import DeviceLogin.Json.Access
import DeviceLogin.Json.Basic
import DeviceLogin.Json.Reader
import DeviceLogin.Json.Search
import DeviceLogin.Json.Writer
import DeviceLogin.Log.Context
import DeviceLogin.Log.Logger
import DeviceLogin.Login
import DeviceLogin.Number.Basic
import DeviceLogin.Number.Decimal
import DeviceLogin.Ordered
import DeviceLogin.Outcome
import DeviceLogin.Pairing
import DeviceLogin.Probe
import DeviceLogin.Provisioning
import DeviceLogin.Reply
import DeviceLogin.Service
import DeviceLogin.Settings
import DeviceLogin.Shape.Basic
import DeviceLogin.Shape.Messages
import DeviceLogin.Site
import DeviceLogin.Text.Base64
import DeviceLogin.Text.Blank
import DeviceLogin.Text.Caseless
import DeviceLogin.Text.CodeTable
import DeviceLogin.Text.Composed
import DeviceLogin.Text.Composed.Table
import DeviceLogin.Text.Form
import DeviceLogin.Text.Hex
import DeviceLogin.Text.Lowercase
import DeviceLogin.Text.Lowercase.Table
import DeviceLogin.Text.Split
import DeviceLogin.Text.Utf8
import DeviceLogin.Url.Address
import DeviceLogin.Url.Basic
import DeviceLogin.Url.Domain.Label
import DeviceLogin.Url.Domain.Label.Table
import DeviceLogin.Url.Domain.Spelling
import DeviceLogin.Url.Domain.Spelling.Table
import DeviceLogin.Url.Host
import DeviceLogin.Url.Percent
import DeviceLogin.Url.Punycode
import DeviceLogin.Url.Reader
import DeviceLogin.Version
import DeviceLogin.WakeOnLan
import DeviceLogin.World.Basic
import DeviceLogin.Xml.Document
import DeviceLogin.Xml.EntityTable
import DeviceLogin.Xml.Token
import DeviceLogin.Proofs.Act.Invariant
import DeviceLogin.Proofs.Reached
import DeviceLogin.Proofs.Posting
import DeviceLogin.Proofs.Calls
import DeviceLogin.Proofs.Readings
import DeviceLogin.Proofs.Clients
import DeviceLogin.Proofs.Login.Course
import DeviceLogin.Proofs.Login.Settling
import DeviceLogin.Proofs.Login.Running
import DeviceLogin.Proofs.Login.Requests
import DeviceLogin.Proofs.Login.Decision
import DeviceLogin.Proofs.Login.Grants
import DeviceLogin.Proofs.Login.Confinement
import DeviceLogin.Proofs.Act.Agreement
import DeviceLogin.Proofs.Secrecy.Redaction
import DeviceLogin.Proofs.Secrecy.Worlds
import DeviceLogin.Proofs.Secrecy.Calls
import DeviceLogin.Proofs.Secrecy.Readings
import DeviceLogin.Proofs.Secrecy.Settings
import DeviceLogin.Proofs.Secrecy.Session
import DeviceLogin.Proofs.Login.Succession
import DeviceLogin.Proofs.Sending
import DeviceLogin.Proofs.Cookie.File
import DeviceLogin.Proofs.Cookie.Upkeep
import DeviceLogin.Proofs.Cookie.Header
import DeviceLogin.Proofs.Pairing.Admission
import DeviceLogin.Proofs.Pairing.Lasting
import DeviceLogin.Proofs.Replies
import DeviceLogin.Proofs.Connecting
import DeviceLogin.Proofs.Pairing.Reports
import DeviceLogin.Proofs.Text.FormDecoding
import DeviceLogin.Proofs.CommandMap.ReadingBack
import DeviceLogin.Proofs.CommandMap.Creating
import DeviceLogin.Proofs.CommandMap.Content
import DeviceLogin.Proofs.MethodLists
import DeviceLogin.Proofs.Numbers
import DeviceLogin.Proofs.Versions
import DeviceLogin.Proofs.Advertising
import DeviceLogin.Proofs.Login.Measuring
import DeviceLogin.Proofs.Text.Pieces
import DeviceLogin.Proofs.Cookie.Grammar
import DeviceLogin.Proofs.Cookie.Storing
import DeviceLogin.Proofs.Cookie.Telling
import DeviceLogin.Proofs.Numbering
import DeviceLogin.Proofs.Retrying
import DeviceLogin.Proofs.Url.Segments
import DeviceLogin.Proofs.Url.Below
import DeviceLogin.Proofs.Url.Reading
import DeviceLogin.Proofs.ServiceAddresses
import DeviceLogin.Proofs.Provisioning.Interfaces
import DeviceLogin.Proofs.Provisioning.Pushing
import DeviceLogin.Proofs.Provisioning.Parts
import DeviceLogin.Proofs.Occasions
import DeviceLogin.Proofs.Login.Interruptions
import DeviceLogin.Proofs.Login.Indifference
import DeviceLogin.Proofs.Login.Failing
import DeviceLogin.Proofs.Text.FormEncoding
import DeviceLogin.Proofs.Text.HexDigits
import DeviceLogin.Proofs.Waking
import DeviceLogin.Proofs.CommandMap.Operations
import DeviceLogin.Proofs.Json.Searching
import DeviceLogin.Proofs.Ircc.Commands
import DeviceLogin.Proofs.Ircc.Following
import DeviceLogin.Proofs.Json.PreOrder
import DeviceLogin.Proofs.Http.Arriving
import DeviceLogin.Proofs.Pairing.Pin
import DeviceLogin.Proofs.Log.Families
