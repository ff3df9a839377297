
namespace TestScaffold.Render

structure Options where
  suggestions : Bool := true
  stateTests : Bool := true
  navigationTests : Bool := true
  comments : Bool := true
  launchArguments : Bool := true
  deriving DecidableEq, Repr

end TestScaffold.Render
