import Transcoding.Adapter.Outline
import Transcoding.Text.Quoted

/-!
# The adapter document

An outline laid out as Rust source text. A document is a list of lines. It starts with a header,
and each service is a module of its own: the route table, the trait of the service, the router, and
the function that serves a request.
-/

namespace Transcoding

open Transcoding.Text

/-- The lines as a text; each line is ended by a line feed. -/
def linesText (lines : List String) : String := "".intercalate (lines.map (· ++ "\n"))

/-- The expression for the source of a payload. -/
def sourceExpression : PayloadSource → String
  | .query => "rt::BodySelector::None"
  | .wholeBody => "rt::BodySelector::All"
  | .field name => "rt::BodySelector::Field(" ++ quote name ++ ")"

/-- The verb and the template of an operation. -/
def Operation.heading (op : Operation) : String := op.route.verb ++ " " ++ op.route.template

/-- The comment above a route: verb, template and variables. -/
def Operation.comment (op : Operation) : String :=
  let names :=
    if op.variableNames.isEmpty then "" else " (" ++ join ", " op.variableNames ++ ")"
  "        // " ++ op.heading ++ names

/-- The entry of the route table. -/
def Operation.tableLines (op : Operation) : List String :=
  [op.comment,
   "        rt::Route \x7b",
   "            method: " ++ quote op.route.method ++ ",",
   "            verb: " ++ quote op.route.verb ++ ",",
   "            template: " ++ quote op.route.template ++ ",",
   "            body: " ++ sourceExpression op.route.source ++ ",",
   "        \x7d,"]

/-- The function of the trait. -/
def Operation.traitLines (op : Operation) : List String :=
  ["",
   "        /// `" ++ op.heading ++ "`",
   "        fn " ++ op.functionName ++ "(",
   "            &self,",
   "            request: " ++ op.inputType ++ ",",
   "        ) -> impl ::std::future::Future<",
   "            Output = ::std::result::Result<" ++ op.outputType ++ ", Self::Error>,",
   "        > + Send;"]

/-- The arm that serves the route at an index. -/
def Operation.armLines (index : Nat) (op : Operation) : List String :=
  ["            Some((" ++ decimal index ++ ", captures)) => \x7b",
   "                let input: " ++ op.inputType ++ " =",
   "                    match request.decode(&ROUTES[" ++ decimal index ++ "], captures) \x7b",
   "                        Ok(input) => input,",
   "                        Err(rejection) => return rejection.into_response(),",
   "                    \x7d;",
   "                rt::respond(handle." ++ op.functionName ++ "(input).await)",
   "            \x7d"]

/-- The arms of the operations, counted from an index. -/
def armsFrom : Nat → List Operation → List String
  | _, [] => []
  | index, op :: rest => op.armLines index ++ armsFrom (index + 1) rest

/-- The expression for a verb. -/
def verbFilter (verb : String) : String := "axum::routing::MethodFilter::" ++ verb

/-- The expression for the verbs of a path. -/
def verbsExpression : List String → String
  | [] => ""
  | verb :: rest =>
    verbFilter verb ++ "".intercalate (rest.map fun v => ".or(" ++ verbFilter v ++ ")")

/-- The registration of a path with the router. -/
def RouterEntry.lines (entry : RouterEntry) : List String :=
  ["            .route(",
   "                " ++ quote entry.path.render ++ ",",
   "                axum::routing::on(",
   "                    " ++ verbsExpression entry.verbs ++ ",",
   "                    dispatch::<T>,",
   "                ),",
   "            )"]

/-- The name of the trait of a service. -/
def ServiceModule.traitName (m : ServiceModule) : String :=
  upperCamelCase m.serviceName ++ "Rpc"

/-- The start of a module. -/
def ServiceModule.openingLines (m : ServiceModule) : List String :=
  ["/// REST adapter for `" ++ m.fullName ++ "`",
   "pub mod " ++ m.moduleName ++ " \x7b"]

/-- What a module imports. -/
def importLines (runtimeCrate : String) : List String :=
  ["    #![allow(dead_code, unused_imports, clippy::all)]",
   "",
   "    use super::*;",
   "    use " ++ runtimeCrate ++ " as rt;",
   "    use rt::axum;",
   "    use rt::axum::response::IntoResponse;",
   ""]

/-- The route table. -/
def ServiceModule.tableLines (m : ServiceModule) : List String :=
  ["    /// REST bindings of `" ++ m.fullName ++ "` in declaration order",
   "    pub const ROUTES: &[rt::Route] = &["]
  ++ m.operations.flatMap Operation.tableLines
  ++ ["    ];",
      ""]

/-- The trait of the service. -/
def ServiceModule.traitLines (m : ServiceModule) : List String :=
  ["    /// Handle to the `" ++ m.fullName ++ "` RPC service",
   "    ///",
   "    /// `Error` decides how RPC failures render as HTTP responses.",
   "    pub trait " ++ m.traitName ++ ": Send + Sync + 'static \x7b",
   "        type Error: IntoResponse + Send;"]
  ++ m.operations.flatMap Operation.traitLines
  ++ ["    \x7d",
      "",
      "    static TABLE: rt::RouteTable = rt::RouteTable::new(ROUTES);",
      ""]

/-- The router. -/
def ServiceModule.routerLines (m : ServiceModule) : List String :=
  ["    /// Axum router serving every route in [`ROUTES`]",
   "    ///",
   "    /// Only plain routes are registered, so routers of different services",
   "    /// merge into one app.",
   "    pub fn router<T: " ++ m.traitName ++ ">(handle: T) -> axum::Router \x7b",
   "        axum::Router::new()"]
  ++ m.entries.flatMap RouterEntry.lines
  ++ ["            .with_state(::std::sync::Arc::new(handle))",
      "    \x7d",
      ""]

/-- The start of the function that serves a request: the request is read and its route is looked
up. -/
def ServiceModule.lookupLines (m : ServiceModule) : List String :=
  ["    async fn dispatch<T: " ++ m.traitName ++ ">(",
   "        axum::extract::State(handle): axum::extract::State<::std::sync::Arc<T>>,",
   "        method: axum::http::Method,",
   "        uri: axum::http::Uri,",
   "        body: axum::body::Bytes,",
   "    ) -> axum::response::Response \x7b",
   "        let request = match rt::RestRequest::new(method, &uri, body) \x7b",
   "            Ok(request) => request,",
   "            Err(rejection) => return rejection.into_response(),",
   "        \x7d;",
   "",
   "        let matched = match request.route(&TABLE) \x7b",
   "            Ok(matched) => matched,",
   "            Err(error) => return error.into_response(),",
   "        \x7d;",
   ""]

/-- The end of the function that serves a request: an arm for each route. -/
def ServiceModule.matchLines (m : ServiceModule) : List String :=
  ["        match matched \x7b"]
  ++ armsFrom 0 m.operations
  ++ ["            _ => rt::not_found(request.method(), request.path()),",
      "        \x7d",
      "    \x7d",
      "\x7d"]

/-- The lines of a module. -/
def ServiceModule.lines (runtimeCrate : String) (m : ServiceModule) : List String :=
  m.openingLines ++ importLines runtimeCrate ++ m.tableLines ++ m.traitLines ++ m.routerLines
  ++ m.lookupLines ++ m.matchLines

/-- The summary at the start of a document. -/
def summaryLines (summary : ModelSummary) : List String :=
  ["//",
   "// Services: " ++ decimal summary.services.length
     ++ ", methods: " ++ decimal summary.methodCount]
  ++ summary.services.map ("//   " ++ ·)

/-- The lines of a document. -/
def documentLines (settings : Settings) (summary : ModelSummary) (modules : List ServiceModule) :
    List String :=
  "// @generated by rest-adapter-generator. Do not edit."
    :: (if settings.summaryHeader then summaryLines summary else [])
  ++ modules.flatMap fun m => "" :: m.lines settings.runtimeCrate

/-- An adapter document, and what it covers. -/
structure Adapter where
  fileName : String
  content : String
  summary : ModelSummary
  deriving DecidableEq

/-- The adapter of a model. -/
def generate (settings : Settings) (services : List Service) : Except OutlineError Adapter := do
  let modules ← outline settings services
  let summary := ModelSummary.ofServices services
  return {
    fileName := settings.outputFile
    content := linesText (documentLines settings summary modules)
    summary }

end Transcoding
