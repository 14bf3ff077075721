import Conduit.Component.Library.Backend
import Conduit.Component.Library.Report
import Conduit.Component.Library.Step
import Conduit.Component.Library.Transform

/-!
# The standard components
-/

namespace Conduit.Library

/-- The factories of the standard components, in the order in which they are registered. -/
def standard : List Factory :=
  [logFactory, backendFactory, jsonParseFactory, jsonStringifyFactory, delayFactory,
    setValuesFactory, endFactory, routeFactory, failFactory, emitFactory]

end Conduit.Library
