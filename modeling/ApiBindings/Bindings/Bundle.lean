import ApiBindings.Bindings.Binding

/-!
# Generated services

The two files generated for a service: a module with the binding of every operation, in order, and
the dispatcher. The first operation that has no binding stops the whole service.
-/

namespace ApiBindings.Bindings

open Service

/-- The text that a module name is made from: a name chosen for it, else the service's identifier,
else its endpoint prefix. -/
def moduleNameSource (m : Metadata) (chosen : Option String) : String :=
  (chosen.or m.serviceId).getD m.endpointPrefix

/-- The name of the module for a service. -/
def moduleNameOf (m : Metadata) (chosen : Option String) : Except Failure String :=
  let source := moduleNameSource m chosen
  let name := Text.moduleName source
  if name.isEmpty then .error (.noModuleName source) else .ok name

/-- The text generated for a service. -/
structure Bundle where
  moduleName : String
  bindings : String
  dispatcher : String

namespace Bundle

/-- The file that the module belongs in. -/
def bindingsFile (b : Bundle) : String := b.moduleName ++ ".jl"

/-- The file that the dispatcher belongs in. -/
def dispatcherFile (b : Bundle) : String := b.moduleName ++ "_dispatch.jl"

end Bundle

/-- The first line of a generated file. -/
def fileHeader (m : Metadata) : String :=
  "# This file is generated by sdkgen from the " ++ m.fullName.getD m.endpointPrefix ++
    " service description (" ++ m.apiVersion ++ ").\n"

/-- The text of the module in front of the bindings. -/
def moduleOpening (d : Description) (docs : Formatter) (moduleName : String) : String :=
  fileHeader d.metadata ++ "\n" ++
    (match docs.embedded? d.documentation with
      | some text => docstring text
      | none => "") ++
    "module " ++ moduleName ++ "\n\nusing AWSCore\nusing AWSCore.Services." ++
    dispatcherName d.metadata ++ "\n\n"

/-- The text of the module behind the bindings. -/
def moduleClosing (moduleName : String) : String := "end # module " ++ moduleName ++ "\n"

/-- The module with the given bindings. -/
def moduleText (d : Description) (docs : Formatter) (moduleName : String)
    (bindings : List String) : String :=
  moduleOpening d docs moduleName ++ String.join (bindings.map (· ++ "\n")) ++
    moduleClosing moduleName

/-- The file with the dispatcher. -/
def dispatcherText (m : Metadata) : String :=
  fileHeader m ++ "\n" ++ (Dispatcher.ofMetadata m).text

/-- Generates the files of a service. -/
def generate (d : Description) (docs : Formatter) (chosenName : Option String) : Report Bundle :=
  match moduleNameOf d.metadata chosenName with
  | .error f => .fail f
  | .ok moduleName =>
    (Report.each (fun (entry : String × Operation) =>
      operationBinding d docs moduleName entry.1 entry.2) d.operations.entries).bind fun bindings =>
        (Report.note (.serviceFinished moduleName bindings.length)).map fun _ =>
          ⟨moduleName, moduleText d docs moduleName bindings, dispatcherText d.metadata⟩

end ApiBindings.Bindings
