import Transcoding.Main
import Transcoding.Serving.Dispatch
import Transcoding.Serving.Message
import Transcoding.Proofs.Template.Reachable
import Transcoding.Proofs.Declaration.RoundTrip
import Transcoding.Proofs.Router.Choice
import Transcoding.Proofs.Serving.Payload
import Transcoding.Proofs.Declaration.Locality
import Transcoding.Proofs.Declaration.Shape
import Transcoding.Proofs.Declaration.Place
import Transcoding.Proofs.Declaration.Enumeration
import Transcoding.Proofs.Declaration.Precedence
import Transcoding.Proofs.Json.Form
import Transcoding.Proofs.Model.Codec
import Transcoding.Proofs.Adapter.TableText
import Transcoding.Proofs.Serving.Dispatch
import Transcoding.Proofs.Adapter.Outline
import Transcoding.Proofs.Adapter.Layout
import Transcoding.Proofs.Adapter.Meaning
import Transcoding.Proofs.Adapter.Validation
import Transcoding.Proofs.Text.Casing
import Transcoding.Proofs.Adapter.ModuleNames
import Transcoding.Proofs.Router.Merging
import Transcoding.Proofs.Json.Literal
import Transcoding.Proofs.Json.Written
import Transcoding.Proofs.Text.Utf8
import Transcoding.Proofs.CommandLine.Session
import Transcoding.Proofs.Json.Record
import Transcoding.Proofs.Plugin.Response
import Transcoding.Proofs.Disk.Volume
import Transcoding.Proofs.Disk.Change
import Transcoding.Proofs.Adapter.Output
import Transcoding.Proofs.CommandLine.Discovery
import Transcoding.Proofs.CommandLine.Generate
import Transcoding.Proofs.CommandLine.Confinement
import Transcoding.Proofs.Plugin.Agreement
import Transcoding.Proofs.Declaration.Closing
import Transcoding.Proofs.Serving.Query
import Transcoding.Proofs.Template.Braces
import Transcoding.Proofs.Adapter.FunctionNames
import Transcoding.Proofs.Adapter.Identifier
import Transcoding.Proofs.Adapter.Parameter
import Transcoding.Proofs.Disk.Listing
import Transcoding.Proofs.Adapter.Comments
