/-
# The result of a function

The attribute `name` is the call: a name, and after a comma the arguments between bars. Directives in an
argument are replaced, and an argument that is empty then does not count. Those who manage the site
are told of a function that may not be called, and where they can change that.
-/

import DynamicContent.Element.Finish
import DynamicContent.Handler.Builtin
import DynamicContent.Html.Link

namespace DynamicContent.Element

/-- The name and the arguments of a call. -/
def splitCall (call : String) : String × List String :=
  match Text.cut "," call with
  | none => (Text.trim call, [])
  | some (name, args) =>
    let args := Text.trim args
    (Text.trim name, if args.isEmpty then [] else
      (Text.splitString (· == '|') args).map Text.trim)

/-- The arguments of a call with their directives replaced, without empty ones. -/
def callArguments (scope : Scope) : List String → RenderM (List String)
  | [] => pure []
  | arg :: rest => do
    let first ← scope.resolveText arg
    let others ← callArguments scope rest
    pure (if first.isEmpty then others else first :: others)

/-- Why a function may not be called. -/
def callRefusal? (host : Host) (name : String) : Option String :=
  if !host.functions.contains name then
    some (Handler.functionNotice (Html.escape name) "does not exist.")
  else if !host.allowlist.allows name then
    some (Handler.functionNotice (Html.escape name) ("is not allowlisted. Please <a href=\"" ++
      Html.cleanUrl host.urls.settings ++ "\">add it to the allowlist</a>."))
  else none

/-- Renders the result of a function. -/
def functionCall : Renderer where
  typeTag := "function"
  defaults _ := pure (defaultsWith ["name"])
  render attrs _ scope := do
    let (name, args) := splitCall (attrs.text "name")
    if name.isEmpty then pure ""
    else
      match callRefusal? scope.host name with
      | some refusal => pure (if scope.request.isPrivileged then refusal else "")
      | none =>
        let args ← callArguments scope args
        let value := match scope.host.functions.call? name args with
          | some (.ok text) => Json.string text
          | _ => .null
        pure (finishValue scope.host value attrs)

end DynamicContent.Element
