import FragmentRoutes.Main
import FragmentRoutes.Proofs.Definition
import FragmentRoutes.Proofs.Endpoint
import FragmentRoutes.Proofs.Redirect.Reach
import FragmentRoutes.Proofs.Imports
import FragmentRoutes.Proofs.Registration.Specificity
import FragmentRoutes.Proofs.RoutesModule.Making
import FragmentRoutes.Proofs.Resolution.PathTypes
import FragmentRoutes.Proofs.RoutesModule.Arguments
import FragmentRoutes.Proofs.Resolution.Conversion
import FragmentRoutes.Proofs.RoutesModule.Fields
import FragmentRoutes.Proofs.RoutesModule.Binding
import FragmentRoutes.Proofs.RoutesModule.Invocation
import FragmentRoutes.Proofs.RoutesModule.Resolved
import FragmentRoutes.Proofs.RoutesModule.Handler
import FragmentRoutes.Proofs.RoutesModule.FormArgument
import FragmentRoutes.Proofs.RoutesModule.UrlMethod
import FragmentRoutes.Proofs.RoutesModule.PathArgument
import FragmentRoutes.Proofs.RoutesModule.Wiring
import FragmentRoutes.Proofs.Imports.Meaning
import FragmentRoutes.Proofs.Definition.Collection
import FragmentRoutes.Proofs.Redirect.Carrier
import FragmentRoutes.Proofs.Imports.Keeping
import FragmentRoutes.Proofs.RoutesModule.Callees
import FragmentRoutes.Proofs.RoutesModule.Coverage
import FragmentRoutes.Proofs.RoutesModule.FixedNames
import FragmentRoutes.Proofs.RoutesModule.Interface
import FragmentRoutes.Proofs.Host.Union
import FragmentRoutes.Proofs.Fragment.Block
import FragmentRoutes.Proofs.Route.LabelReading
import FragmentRoutes.Proofs.Project
import FragmentRoutes.Proofs.Naming.Allocation
import FragmentRoutes.Proofs.Resolution.Synthesis
import FragmentRoutes.Proofs.RoutesModule.MethodNames
import FragmentRoutes.Proofs.RoutesModule.GroupNames
import FragmentRoutes.Proofs.Definition.Files
import FragmentRoutes.Proofs.Call.Scope
import FragmentRoutes.Proofs.RoutesModule.BuiltPath
import FragmentRoutes.Proofs.Definition.ParameterForms
import FragmentRoutes.Proofs.Route.PathGrammar
import FragmentRoutes.Proofs.Command
import FragmentRoutes.Proofs.RoutesModule.Limit
