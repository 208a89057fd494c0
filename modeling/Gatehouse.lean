import Gatehouse.Text.Basic
import Gatehouse.Text.Base64Url
import Gatehouse.Text.Integer
import Gatehouse.Access.Decision
import Gatehouse.Json.Value
import Gatehouse.Json.Record
import Gatehouse.Crypto.Sha256
import Gatehouse.Crypto.Gcm
import Gatehouse.Text.Pattern
import Gatehouse.Identity.Email
import Gatehouse.Identity.Uuid
import Gatehouse.Identity.Record
import Gatehouse.Credentials
import Gatehouse.Session.Token
import Gatehouse.Login.Issue
import Gatehouse.Settings
import Gatehouse.Url.Reader
import Gatehouse.Backend.Exchange
import Gatehouse.App.Serve
import Gatehouse.Startup
import Gatehouse.Backend.Wire
import Gatehouse.Main
import Gatehouse.Proofs.Except
import Gatehouse.Proofs.Json.Text
import Gatehouse.Proofs.Text.Base64Url
import Gatehouse.Proofs.Json.Number
import Gatehouse.Proofs.Json.RoundTrip
import Gatehouse.Proofs.Crypto.Gcm
import Gatehouse.Proofs.Identity.Uuid
import Gatehouse.Proofs.Json.Record
import Gatehouse.Proofs.Session.SealedAccount
import Gatehouse.Proofs.Session.Parts
import Gatehouse.Proofs.Session.Payload
import Gatehouse.Proofs.Session.RoundTrip
import Gatehouse.Proofs.Session.Authentic
import Gatehouse.Proofs.Access.Decision
import Gatehouse.Proofs.Log.Event
import Gatehouse.Proofs.Identity.Email
import Gatehouse.Proofs.Login.Outcome
import Gatehouse.Proofs.App.Basic
import Gatehouse.Proofs.App.Gate
import Gatehouse.Proofs.Session.Issue
import Gatehouse.Proofs.Text.Plain
import Gatehouse.Proofs.Http.Client
import Gatehouse.Proofs.App.Endpoint
import Gatehouse.Proofs.App.Run
import Gatehouse.Proofs.App.Failure
import Gatehouse.Proofs.App.Issuance
import Gatehouse.Proofs.App.Noninterference
import Gatehouse.Proofs.Backend.Attempt
import Gatehouse.Proofs.App.LoginStatus
import Gatehouse.Proofs.Text.Percent
import Gatehouse.Proofs.Route.Path
import Gatehouse.Proofs.Access.Callback
import Gatehouse.Proofs.Access.Reach
import Gatehouse.Proofs.Access.Follow
import Gatehouse.Proofs.App.Effects
import Gatehouse.Proofs.Text.Blank
import Gatehouse.Proofs.Http.Cookie
import Gatehouse.Proofs.Http.SessionCookie
import Gatehouse.Proofs.Session.PayloadText
import Gatehouse.Proofs.Session.Disclosure
import Gatehouse.Proofs.Route.Canonical
import Gatehouse.Proofs.Route.DotSegments
import Gatehouse.Proofs.App.Completion
import Gatehouse.Proofs.Backend.Fault
import Gatehouse.Proofs.Login.Events
import Gatehouse.Proofs.App.Events
import Gatehouse.Proofs.Text.Pattern
import Gatehouse.Proofs.Identity.Address
import Gatehouse.Proofs.Session.Signature
import Gatehouse.Proofs.Session.Unsealing
import Gatehouse.Proofs.Identity.Record
import Gatehouse.Proofs.Text.LetterCase
import Gatehouse.Proofs.Identity.Spelling
import Gatehouse.Proofs.Identity.Respelling
import Gatehouse.Proofs.Identity.Normal
import Gatehouse.Proofs.Http.SessionToken
import Gatehouse.Proofs.Json.Field
import Gatehouse.Proofs.Backend.Envelope
import Gatehouse.Proofs.Text.Integer
import Gatehouse.Proofs.Settings
import Gatehouse.Proofs.Url.Path
import Gatehouse.Proofs.Url.Reader
import Gatehouse.Proofs.Backend.Endpoint
import Gatehouse.Proofs.Startup
