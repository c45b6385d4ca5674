import Oxidize.Stub.Known.Basic

/-!
# The crate `actix-web`

What is known beforehand of the web framework.
-/

namespace Oxidize.Stub.Known.ActixWeb

def statuses : Table String :=
  [("Ok", "200 OK"), ("Created", "201 Created"), ("Accepted", "202 Accepted"),
   ("NoContent", "204 No Content"), ("BadRequest", "400 Bad Request"),
   ("Unauthorized", "401 Unauthorized"), ("Forbidden", "403 Forbidden"),
   ("NotFound", "404 Not Found"), ("InternalServerError", "500 Internal Server Error")]

def httpResponse : KnownType :=
  let type := classType "actix-web" "HttpResponse" "actix_web::HttpResponse"
    ["HTTP response type.", "",
     "Use the static methods to create responses with specific status codes,",
     "then chain builder methods to set body, headers, etc."]
    ["", "Example:", "    return HttpResponse.Ok().body(\"Hello World!\")",
     "    return HttpResponse.Ok().json(\x7b\"key\": \"value\"\x7d)",
     "    return HttpResponse.NotFound().body(\"Not found\")"]
    (statuses.map fun (name, status) =>
      staticMethod s!"{name}() -> \"HttpResponseBuilder\""
        [s!"Creates a {status} response builder."])
    (statuses.map fun (name, _) => (name, "()"))
  { type with
    stub := type.stub ++
      classLines "HttpResponseBuilder"
        ["Builder for constructing HTTP responses.", "",
         "Returned by HttpResponse status methods. Chain methods to configure",
         "the response body, headers, and content type."]
        [method "body(self, data: str) -> \"HttpResponse\"" ["Set the response body as a string."],
         method "json(self, data: object) -> \"HttpResponse\"" ["Set the response body as JSON."],
         method "content_type(self, ct: str) -> \"HttpResponseBuilder\""
           ["Set the Content-Type header."],
         method "insert_header(self, header: tuple[str, str]) -> \"HttpResponseBuilder\""
           ["Insert a custom header."],
         method "finish(self) -> \"HttpResponse\"" ["Finish building and return the response."]] }

def app : KnownType :=
  classType "actix-web" "App" "actix_web::App"
    ["Application builder for configuring actix-web services.", "",
     "Create with App.new(), then chain methods to add routes, middleware,",
     "and application data."]
    ["", "Example:", "    app = App.new().app_data(Data.new(state)).service(handler)"]
    [staticMethod "new() -> \"App\"" ["Create a new application builder."],
     method "app_data(self, data: object) -> \"App\""
       ["Set application-wide shared data.", "",
        "Data is wrapped in web::Data<T> and can be extracted in handlers."],
     method "service(self, handler: object) -> \"App\""
       ["Register an HTTP service (handler function)."],
     method "route(self, path: str, route: object) -> \"App\""
       ["Configure a route for a specific path and method."],
     method "wrap(self, middleware: object) -> \"App\""
       ["Wrap the application with middleware."],
     method "configure(self, f: object) -> \"App\""
       ["Run external configuration as part of application building."]]
    [("new", "()")]

def httpServer : KnownType :=
  classType "actix-web" "HttpServer" "actix_web::HttpServer"
    ["HTTP server that manages worker threads and connections.", "",
     "Create with HttpServer.new() passing an App factory, then configure",
     "bindings and run the server."]
    ["", "Example:", "    HttpServer.new(lambda: App.new().service(index))",
     "        .bind(\"127.0.0.1:8080\")", "        .run()"]
    [staticMethod "new(factory: object) -> \"HttpServer\""
       ["Create a new HTTP server with an application factory.", "",
        "The factory is called for each worker thread to create the App."],
     method "bind(self, addr: str) -> \"HttpServer\""
       ["Bind to a socket address (e.g., \"127.0.0.1:8080\")."],
     method "bind_rustls(self, addr: str, config: object) -> \"HttpServer\""
       ["Bind with TLS using rustls."],
     method "workers(self, num: int) -> \"HttpServer\""
       ["Set the number of worker threads (default: number of CPUs)."],
     asyncMethod "run(self) -> None" ["Start the server and wait for it to finish."]]
    [("new", "(move || {arg0})")]

def data : KnownType :=
  classType "actix-web" "Data" "actix_web::web::Data"
    ["Shared application state extractor.", "",
     "Wraps data in Arc for thread-safe sharing between handlers.",
     "Register with App.app_data() and extract in handler parameters."]
    ["", "Example:", "    # In main:", "    state = Data.new(AppState())",
     "    app = App.new().app_data(state)", "", "    # In handler:",
     "    async def index(data: Data[AppState]) -> HttpResponse:",
     "        return HttpResponse.Ok().body(data.app_name)"]
    [staticMethod "new(value: T) -> \"Data[T]\"" ["Create new shared application data."]]
    [("new", "({arg0})")] true

def query : KnownType :=
  classType "actix-web" "Query" "actix_web::web::Query"
    ["Query string parameter extractor.", "", "Extracts typed data from the URL query string.",
     "The type T must implement serde::Deserialize."]
    ["", "Example:", "    @dataclass", "    class Params:", "        name: str",
     "        page: int", "", "    async def search(params: Query[Params]) -> HttpResponse:",
     "        return HttpResponse.Ok().body(f\"Searching for \x7bparams.name\x7d\")"] [] [] true

def json : KnownType :=
  classType "actix-web" "Json" "actix_web::web::Json"
    ["JSON extractor and responder.", "",
     "As extractor: Deserializes JSON request body into type T.",
     "As responder: Serializes type T to JSON response."]
    ["", "Example:", "    @dataclass", "    class User:", "        name: str", "        email: str",
     "", "    async def create_user(user: Json[User]) -> Json[User]:",
     "        # user.name, user.email are accessible", "        return Json(user)"]
    [method "__init__(self, value: T) -> None" ["Create a JSON response from a value."]] [] true

def form : KnownType :=
  classType "actix-web" "Form" "actix_web::web::Form"
    ["URL-encoded form data extractor.", "",
     "Extracts typed data from application/x-www-form-urlencoded request body.",
     "The type T must implement serde::Deserialize."]
    ["", "Example:", "    @dataclass", "    class LoginForm:", "        username: str",
     "        password: str", "", "    async def login(form: Form[LoginForm]) -> HttpResponse:",
     "        # form.username, form.password are accessible",
     "        return HttpResponse.Ok().body(\"Logged in\")"] [] [] true

def path : KnownType :=
  classType "actix-web" "Path" "actix_web::web::Path"
    ["Path parameter extractor.", "", "Extracts typed data from URL path segments.",
     "The type T must implement serde::Deserialize."]
    ["", "Example:", "    # Route: /users/\x7buser_id\x7d",
     "    async def get_user(path: Path[int]) -> HttpResponse:",
     "        user_id = path.into_inner()",
     "        return HttpResponse.Ok().body(f\"User \x7buser_id\x7d\")", "",
     "    # Multiple params: /users/\x7buser_id\x7d/posts/\x7bpost_id\x7d", "    @dataclass",
     "    class PathParams:", "        user_id: int", "        post_id: int", "",
     "    async def get_post(path: Path[PathParams]) -> HttpResponse:",
     "        return HttpResponse.Ok().body(f\"Post \x7bpath.post_id\x7d\")"]
    [method "into_inner(self) -> T" ["Extract the inner value."]] [] true

def httpRequest : KnownType :=
  classType "actix-web" "HttpRequest" "actix_web::HttpRequest"
    ["HTTP request type.", "", "Contains request metadata like method, URI, headers, etc.",
     "Can be extracted in handlers when you need low-level access."]
    ["", "Example:", "    async def handler(req: HttpRequest) -> HttpResponse:",
     "        method = req.method()", "        path = req.path()",
     "        return HttpResponse.Ok().body(f\"{method} {path}\")"]
    [method "method(self) -> str" ["Get the HTTP method."],
     method "uri(self) -> str" ["Get the request URI."],
     method "path(self) -> str" ["Get the URL path."],
     method "query_string(self) -> str" ["Get the raw query string."],
     method "headers(self) -> object" ["Get request headers."]]

def route : KnownType :=
  classType "actix-web" "Route" "actix_web::web::Route"
    ["Route configuration for HTTP method handlers.", "",
     "Created by web::get(), web::post(), etc. functions.",
     "Use .to() to attach a handler function."]
    ["", "Example:", "    # Register a GET route",
     "    app = App.new().route(\"/\", get().to(index))", "", "    # Register a POST route",
     "    app = App.new().route(\"/submit\", post().to(submit_handler))"]
    [method "to(self, handler: object) -> \"Route\""
       ["Attach a handler function to this route.", "",
        "The handler must be an async function that returns an HttpResponse",
        "or impl Responder."]]

def errorFunction (name : String) (doc : List String) : KnownFunction :=
  crateFunction "actix-web" name "(msg: str) -> object" s!"actix_web::error::{name}(\x7barg0\x7d)"
    doc ["actix_web::error"]

def routeFunction (name : String) (doc : List String) : KnownFunction :=
  crateFunction "actix-web" name "() -> object" s!"actix_web::web::{name}()" doc

def crate : KnownCrate where
  types := [httpResponse, app, httpServer, data, query, json, form, path, httpRequest, route]
  functions :=
    [errorFunction "ErrorBadRequest"
       ["Create a 400 Bad Request error.", "", "Use in handlers to return an error response.", "",
        "Example:", "    if not valid:", "        return Err(ErrorBadRequest(\"Invalid input\"))"],
     errorFunction "ErrorUnauthorized" ["Create a 401 Unauthorized error."],
     errorFunction "ErrorForbidden" ["Create a 403 Forbidden error."],
     errorFunction "ErrorNotFound" ["Create a 404 Not Found error."],
     errorFunction "ErrorInternalServerError" ["Create a 500 Internal Server Error."],
     routeFunction "get"
       ["Create a GET route configuration.", "",
        "Use with App.route() to configure a GET endpoint.", "", "Example:",
        "    App.new().route(\"/\", get().to(handler))"]] ++
    ["post", "put", "delete", "patch"].map fun name =>
      routeFunction name ["Create a " ++ name.toUpper ++ " route configuration."]
  methods :=
    [{ python := "HttpServer.bind", code := "{self}.bind({arg0}).unwrap()", returnsSelf := true,
       paramTypes := ["&str"] },
     { python := "HttpServer.run", code := "{self}.run().await" },
     { python := "App.route", code := "{self}.route({arg0}, {arg1})", returnsSelf := true,
       paramTypes := ["&str"] },
     { python := "Route.to", code := "{self}.to({arg0})", returnsSelf := true }]

end Oxidize.Stub.Known.ActixWeb
