import BareMetal.Kind
import BareMetal.Main
import BareMetal.Proofs.Controller.Connection
import BareMetal.Proofs.Controller.Outcome
import BareMetal.Proofs.Reader.Listing
import BareMetal.Proofs.Registry.Resolution
import BareMetal.Proofs.Report.Permission
import BareMetal.Proofs.Wire.Acceptance
import BareMetal.Proofs.Wire.RoundTrip
import BareMetal.Proofs.Reader.Versions
import BareMetal.Proofs.Wire.Location
import BareMetal.Proofs.Controller.Dispatch
import BareMetal.Proofs.Url.Path
import BareMetal.Proofs.Url.Site
import BareMetal.Proofs.Controller.Identifier
import BareMetal.Proofs.Node.BlockDevices
import BareMetal.Proofs.Node.Unknown
import BareMetal.Proofs.Wire.Edits
import BareMetal.Proofs.Wire.Absence
import BareMetal.Proofs.Report.Success
import BareMetal.Proofs.Registry.Representation
import BareMetal.Proofs.Failure.History
import BareMetal.Proofs.Number.Overflow
import BareMetal.Proofs.Http.Steps
import BareMetal.Proofs.Report.Subjects
import BareMetal.Proofs.Report.Summary
import BareMetal.Proofs.Report.Order
import BareMetal.Proofs.Report.Ending
import BareMetal.Proofs.Storage.Partitions
import BareMetal.Proofs.Report.Unanswered
import BareMetal.Proofs.Number.Exact
import BareMetal.Proofs.Number.Spelling
import BareMetal.Proofs.Schema.Numbers
import BareMetal.Proofs.Json.Names
import BareMetal.Proofs.Schema.Place
import BareMetal.Proofs.Wire.FirstFault
import BareMetal.Proofs.Url.Join
import BareMetal.Proofs.Http.Resource
import BareMetal.Proofs.Version.Release
import BareMetal.Proofs.Registry.Unsupported
import BareMetal.Proofs.Controller.UserData
import BareMetal.Proofs.Controller.Allocation
import BareMetal.Proofs.Size
import BareMetal.Proofs.Number.Sign
import BareMetal.Proofs.Schema.Sizes
import BareMetal.Proofs.Asset.Subarches
import BareMetal.Proofs.Schema.Path
import BareMetal.Proofs.Json.Texts
import BareMetal.Proofs.Json.RoundTrip
import BareMetal.Proofs.Schema.Description
