import ApiScaffold.Code.Reading
import ApiScaffold.Client.Exchange
import ApiScaffold.Client.Circuit.Bench
import ApiScaffold.Client.Course
import ApiScaffold.Client.Dispatch
import ApiScaffold.Client.Pipeline
import ApiScaffold.Main
import ApiScaffold.Sample.Items
import ApiScaffold.Web.RequestParts
import ApiScaffold.Proofs.Circuit.Operation
import ApiScaffold.Proofs.Circuit.Watch
import ApiScaffold.Proofs.Circuit.Trial
import ApiScaffold.Proofs.Circuit.Transition
import ApiScaffold.Proofs.Call.Deadline
import ApiScaffold.Proofs.Pipeline.Count
import ApiScaffold.Proofs.Circuit.Permits
import ApiScaffold.Proofs.Pipeline.Deadline
import ApiScaffold.Proofs.Web.Status
import ApiScaffold.Proofs.Code.Dispatch
import ApiScaffold.Proofs.Walk.Responses
import ApiScaffold.Proofs.Text.Utf8
import ApiScaffold.Proofs.Param
import ApiScaffold.Proofs.Web.Form
import ApiScaffold.Proofs.Web.QueryString
import ApiScaffold.Code.Input
import ApiScaffold.Proofs.Operation.PathTemplate
import ApiScaffold.Proofs.Code.Input
import ApiScaffold.Proofs.Web.Boundary
import ApiScaffold.Proofs.Walk.WellFormed
import ApiScaffold.Proofs.Code.Names
import ApiScaffold.Proofs.Code.Validator
import ApiScaffold.Proofs.Code.TypeName
import ApiScaffold.Proofs.Package.Scope
import ApiScaffold.Proofs.Package.Methods
import ApiScaffold.Proofs.Code.ModelPath
import ApiScaffold.Proofs.Package.Routes
import ApiScaffold.Proofs.Text.Quoted
import ApiScaffold.Proofs.Package.Title
import ApiScaffold.Proofs.Document.References
import ApiScaffold.Proofs.Pipeline.Spans
import ApiScaffold.Proofs.Pipeline.Traffic
import ApiScaffold.Proofs.Files.Folders
import ApiScaffold.Proofs.Task.Package
import ApiScaffold.Proofs.Circuit.Reading
import ApiScaffold.Proofs.Pipeline.Refusal
import ApiScaffold.Proofs.Sample.Request
import ApiScaffold.Proofs.Sample.Response
import ApiScaffold.Proofs.Operation.Placeholders
import ApiScaffold.Proofs.Call.Attempts
import ApiScaffold.Proofs.Code.Enumeration
import ApiScaffold.Proofs.Package.Agreement
import ApiScaffold.Proofs.Circuit.Counting
import ApiScaffold.Proofs.Task.Mode
import ApiScaffold.Proofs.Package.Manifest
import ApiScaffold.Proofs.Code.IntegerCheck
import ApiScaffold.Proofs.Pipeline.SpanHeader
import ApiScaffold.Proofs.DocText
import ApiScaffold.Proofs.Call.Retries
import ApiScaffold.Proofs.Package.Fingerprint
import ApiScaffold.Proofs.Document.BasePath
