import Conduit.Json.Fault

/-!
# Errors

Why a component, the compilation of a pipeline or a run failed, with the texts that say so.
-/

namespace Conduit

/-- Why a component could not be prepared or executed. -/
inductive ComponentError where
  | missingInput (key : String)
  | invalidInputType (field expected actual : String)
  | configuration (text : String)
  | executionFailed (text : String)
  | initializationFailed (text : String)
  | timeout (millis : Nat)
  | cancelled
  deriving DecidableEq

def ComponentError.message : ComponentError → String
  | missingInput key => "Missing required input: " ++ key
  | invalidInputType field expected actual =>
    "Invalid input type for '" ++ field ++ "': expected " ++ expected ++ ", got " ++ actual
  | configuration text => "Configuration error: " ++ text
  | executionFailed text => "Execution failed: " ++ text
  | initializationFailed text => "Component initialization failed: " ++ text
  | timeout millis => "Timeout after " ++ toString millis ++ "ms"
  | cancelled => "Cancelled"

/-- Why a definition is no graph that can run. -/
inductive GraphError where
  | notFound (pipeline : String)
  | invalid (text : String)
  | cyclicDependency
  | nodeNotFound (node : String)
  | unknownComponentType (component : String)
  | invalidCondition (source target text : String)
  | recursivePipeline (chain : String)
  | invalidParameter (component text : String)
  deriving DecidableEq

def GraphError.message : GraphError → String
  | notFound pipeline => "Pipeline not found: " ++ pipeline
  | invalid text => "Invalid pipeline: " ++ text
  | cyclicDependency => "Cyclic dependency detected"
  | nodeNotFound node => "Node not found: " ++ node
  | unknownComponentType component => "Unknown component type: " ++ component
  | invalidCondition source target text =>
    "Invalid condition on edge " ++ source ++ " -> " ++ target ++ ": " ++ text
  | recursivePipeline chain => "Recursive pipeline reference: " ++ chain
  | invalidParameter component text =>
    "Invalid parameter for '" ++ component ++ "': " ++ text

/-- Why a pipeline could not be compiled or its run did not succeed. -/
inductive PipelineError where
  | graph (error : GraphError)
  | missingComponent (node reason : String)
  | conditionEval (source target text : String)
  | componentExecution (node : String) (error : ComponentError)
  | cancelled
  | stepLimitExceeded (limit : Nat)
  | execution (text : String)
  | io (text : String)
  | serialization (text : String)
  deriving DecidableEq

namespace PipelineError

def message : PipelineError → String
  | graph error => "Graph error: " ++ error.message
  | missingComponent node reason =>
    "Node '" ++ node ++ "' has no usable component: " ++ reason
  | conditionEval source target text =>
    "Condition on edge " ++ source ++ " -> " ++ target ++ " failed to evaluate: " ++ text
  | componentExecution node error => "Node '" ++ node ++ "' failed: " ++ error.message
  | cancelled => "Run cancelled"
  | stepLimitExceeded limit =>
    "Run exceeded the limit of " ++ toString limit ++ " node executions"
  | execution text => "Execution error: " ++ text
  | io text => "IO error: " ++ text
  | serialization text => "Serialization error: " ++ text

def node? : PipelineError → Option String
  | missingComponent node _ => some node
  | componentExecution node _ => some node
  | conditionEval _ target _ => some target
  | _ => none

/-- The cause below the message that a report prints as well. -/
def cause? : PipelineError → Option String
  | graph error => some error.message
  | componentExecution _ error => some error.message
  | io text => some text
  | serialization text => some text
  | _ => none

end PipelineError

end Conduit
