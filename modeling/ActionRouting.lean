import ActionRouting.Regex.FirstMatch
import ActionRouting.Service.Script
import ActionRouting.Showcase.PetStore
import ActionRouting.Proofs.Path.Descriptors
import ActionRouting.Proofs.Path.Extent
import ActionRouting.Proofs.Path.Format
import ActionRouting.Proofs.Path.LooseEnd
import ActionRouting.Proofs.Router.Permuted
import ActionRouting.Proofs.Router.SoleRoute
import ActionRouting.Proofs.Router.RegexArgs
import ActionRouting.Proofs.Router.RegexRoute
import ActionRouting.Proofs.Router.RestRoute
import ActionRouting.Proofs.Router.OneMoreRoute
import ActionRouting.Proofs.Router.UrlFrame
import ActionRouting.Proofs.Router.ClassRoute
import ActionRouting.Proofs.Router.EscapedRoute
import ActionRouting.Proofs.Router.FailedResource
import ActionRouting.Proofs.Router.Collection
import ActionRouting.Proofs.Router.CaselessPaths
import ActionRouting.Proofs.Gateway.BasePath
import ActionRouting.Proofs.Service.HeadReplies
import ActionRouting.Proofs.Service.Memory
import ActionRouting.Proofs.Service.Transport
import ActionRouting.Proofs.Log.Written
import ActionRouting.Proofs.Path.TwoScans
import ActionRouting.Proofs.Router.Settings
