import SearchClient.Config.Store
import SearchClient.Json.Printer
import SearchClient.Query.Decode
import SearchClient.Session
import SearchClient.Proofs.Session.History
import SearchClient.Proofs.Session.Params
import SearchClient.Proofs.Request.Address
import SearchClient.Proofs.Query.SearchBody
import SearchClient.Proofs.Query.Keywords
import SearchClient.Proofs.Response.Agreement
import SearchClient.Proofs.Spec.Mapping
import SearchClient.Proofs.Session.Document
import SearchClient.Proofs.Spec.Building
import SearchClient.Proofs.Session.Dialogue
import SearchClient.Proofs.Session.Stage
import SearchClient.Proofs.Request.Prepared
import SearchClient.Proofs.Session.Debugging
import SearchClient.Proofs.Session.Refusal
import SearchClient.Proofs.Session.Clearing
import SearchClient.Proofs.Query.Shape
import SearchClient.Proofs.Query.WellFormed
import SearchClient.Proofs.Query.Modes
import SearchClient.Proofs.Response.Page
import SearchClient.Proofs.Toml.Document
import SearchClient.Proofs.Config.Text
import SearchClient.Proofs.Config.Store
import SearchClient.Proofs.Text.Form
import SearchClient.Proofs.Query.Composition
import SearchClient.Proofs.Query.SearchText
import SearchClient.Proofs.Url.FromParts
import SearchClient.Proofs.Request.Origin
import SearchClient.Proofs.Spec.Operators
import SearchClient.Proofs.Config.Creation
import SearchClient.Proofs.Request.SearchDocument
import SearchClient.Proofs.Spec.Canonical
