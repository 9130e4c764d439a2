import Flowplane.Basic
import Flowplane.Json
import Flowplane.Url
import Flowplane.Route.Definition
import Flowplane.Route.Validate
import Flowplane.Route.Xds
import Flowplane.Route.Store
import Flowplane.Route.Handlers
import Flowplane.Route.Runs
import Flowplane.Route.Catalog
import Flowplane.Cluster
import Flowplane.Platform.ApiDefinition
import Flowplane.Platform.Service
import Flowplane.Platform.Transformers
import Flowplane.Platform.JsonViews
import Flowplane.Platform.Handlers
import Flowplane.Platform.Derived
import Flowplane.OpenApi.Policies
import Flowplane.OpenApi.Import
import Flowplane.Auth.Validation
import Flowplane.Auth.Router
import Flowplane.Auth.Serve
import Flowplane.Route.Secured
import Flowplane.Platform.Secured
