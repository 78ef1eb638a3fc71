/-
  The part of the generated module that hardly changes.

  Every generated module defines the same helpers, the same response writer, and a class
  for the data of the fragments, in which only the names of three classes vary.  Their
  texts are kept as they are written.
-/
import FragmentRoutes.Code.Layout
import FragmentRoutes.Config
import FragmentRoutes.Imports
import FragmentRoutes.Text.Compatibility

namespace FragmentRoutes.RoutesModule

open Code

namespace Support

/-- Lines that define a function or a class. -/
def definition (lines : List String) : Piece :=
  .text true ("\n".intercalate lines)

/-- The first line of every generated module. -/
def header : String :=
  "# Code generated by jinjamux. DO NOT EDIT."

/-! ### Imports -/

/-- The modules that every generated module imports whole. -/
def modules : List String := ["html", "io", "logging", "posixpath"]

/-- The symbols that every generated module imports, before any of the application. -/
def symbols : List (String × String) := [
  ("http", "HTTPStatus"), ("typing", "Any"), ("typing", "Protocol"), ("urllib.parse", "quote"),
  ("starlette.datastructures", "FormData"), ("starlette.datastructures", "MutableHeaders"),
  ("starlette.requests", "Request"), ("starlette.responses", "PlainTextResponse"),
  ("starlette.responses", "Response"), ("starlette.routing", "BaseRoute"),
  ("starlette.routing", "Host"), ("starlette.routing", "Route"), ("starlette.routing", "Router")]

/-- The names of classes and functions that the generated module defines. -/
def definedNames (config : Config) : List String := [
  "ResponseWriter", config.templateDataType, config.routePathsType, config.receiverInterface,
  config.routesFunction, "JINJAMUX_VERSION"]

/-- Imports what every generated module needs, around the names that it defines. -/
def register (config : Config) : Imports.Making Unit := do
  modify (·.reserve (definedNames config))
  modify fun imports => modules.foldl (·.addModule ·) imports
  for (module, symbol) in symbols do
    let _ ← Imports.localName module symbol

/-! ### Helpers -/

/-- The values that helpers refer to. -/
def constants : Piece :=
  .text false ("\n".intercalate [
    "_logger = logging.getLogger(__name__)",
    "JINJAMUX_VERSION = '0.1.0'",
    "_TRUE_TOKENS = frozenset(\x7b'1', 't', 'T', 'TRUE', 'true', 'True'\x7d)",
    "_FALSE_TOKENS = frozenset(\x7b'0', 'f', 'F', 'FALSE', 'false', 'False'\x7d)"])

/-- Reads a truth value from a text. -/
def parseBool : Piece :=
  definition [
    "def _parse_bool(text: str) -> bool:",
    "    if text in _TRUE_TOKENS:",
    "        return True",
    "    if text in _FALSE_TOKENS:",
    "        return False",
    "    raise ValueError(f'invalid boolean \x7btext!r\x7d')"]

/-- The status that an error asks for. -/
def errorStatus : Piece :=
  definition [
    "def _error_status(err: BaseException) -> int:",
    "    status = getattr(err, 'status_code', None)",
    "    if callable(status):",
    "        status = status()",
    "    if isinstance(status, int) and status:",
    "        return status",
    "    return HTTPStatus.INTERNAL_SERVER_ERROR"]

/-- The text that stands for a page with errors. -/
def errorText : Piece :=
  definition [
    "def _error_text(errors: list[BaseException]) -> str:",
    "    return '\\n'.join((html.escape(str(err)) for err in errors))"]

/-- A path put together of its parts. -/
def joinPath : Piece :=
  definition [
    "def _join(prefix: str, *segments: str) -> str:",
    "    return posixpath.normpath(posixpath.join(prefix or '/', *segments))"]

/-- The text of a path segment. -/
def encodeSegment : Piece :=
  definition [
    "def _segment(text: str, safe: str='') -> str:",
    "    return quote(text, safe=safe)"]

/-- The text that a value writes itself as, or the error that kept it from doing so. -/
def encodeValue : Piece :=
  definition [
    "def _encode_text(value: Any, message: str) -> tuple[str, ValueError | None]:",
    "    try:",
    "        return (value.to_text(), None)",
    "    except Exception as err:",
    "        wrapped = ValueError(f'\x7bmessage\x7d: \x7berr\x7d')",
    "        wrapped.__cause__ = err",
    "        return ('', wrapped)"]

/-- Reads the values of the query and of the body. -/
def readForm : Piece :=
  definition [
    "async def _read_form(request: Request) -> FormData:",
    ("    \"\"\"Query values followed by body values; ``get`` " ++
      "returns the body value when both are sent.\"\"\""),
    "    body = await request.form()",
    "    return FormData([*request.query_params.multi_items(), *body.multi_items()])"]

/-- Adds routes to the router in the order of their ranks. -/
def registerRoutes : Piece :=
  definition [
    "def _register_routes(router: Router, entries: list[tuple[int, str, BaseRoute]]) -> None:",
    "    hosts: dict[str, Router] = \x7b\x7d",
    "    for _, host, route in sorted(entries, key=lambda entry: entry[0]):",
    "        if not host:",
    "            router.routes.append(route)",
    "            continue",
    "        if host not in hosts:",
    "            hosts[host] = Router()",
    "            router.routes.append(Host(host, app=hosts[host]))",
    "        hosts[host].routes.append(route)"]

/-- All helpers, in their order. -/
def helpers : List Piece := [
  constants, parseBool, errorStatus, errorText, joinPath, encodeSegment, encodeValue, readForm,
  registerRoutes]

/-! ### Classes -/

/-- The response that a handler and the fragment write into. -/
def responseWriter : Piece :=
  definition [
    "class ResponseWriter:",
    ("    \"\"\"Buffered response the handler, and any method " ++
      "taking ``response``, writes into.\"\"\""),
    "",
    "    def __init__(self) -> None:",
    "        self.headers = MutableHeaders()",
    "        self.status_code = 0",
    "        self.body = io.BytesIO()",
    "",
    "    def write_header(self, status_code: int) -> None:",
    "        if not self.status_code:",
    "            self.status_code = int(status_code)",
    "",
    "    def write(self, data: bytes | str) -> int:",
    "        if isinstance(data, str):",
    "            data = data.encode('utf-8')",
    "        if not self.status_code:",
    "            self.status_code = HTTPStatus.OK",
    "        return self.body.write(data)",
    "",
    "    def redirect(self, url: str, status_code: int=HTTPStatus.SEE_OTHER) -> None:",
    "        self.headers['location'] = url",
    "        self.write_header(status_code)",
    "",
    "    def to_response(self) -> Response:",
    ("        return Response(self.body.getvalue(), " ++
      "status_code=self.status_code or HTTPStatus.OK, headers=self.headers)")]

/-- The data that fragments are rendered with, given the names of its class, of the
receiver and of the URL builders. -/
def templateData (dataType receiver paths : String) : Piece :=
  definition [
    "class " ++ dataType ++ ":",
    "    \"\"\"Passed to every route template as ``data``.\"\"\"",
    "",
    ("    def __init__(self, receiver: " ++ receiver ++ ", response: " ++
      "ResponseWriter, request: Request, paths: " ++ paths ++ ") -> None:"),
    "        self._receiver = receiver",
    "        self._response = response",
    "        self._request = request",
    "        self._paths = paths",
    "        self._result: Any = None",
    "        self._ok = False",
    "        self._errors: list[BaseException] = []",
    "        self._status_code = 0",
    "        self._err_status_code = 0",
    "        self._redirect_url = ''",
    "",
    "    def result(self) -> Any:",
    "        return self._result",
    "",
    "    def ok(self) -> bool:",
    "        return self._ok",
    "",
    "    def err(self) -> BaseExceptionGroup | None:",
    "        if not self._errors:",
    "            return None",
    "        return BaseExceptionGroup('request failed', list(self._errors))",
    "",
    "    def request(self) -> Request:",
    "        return self._request",
    "",
    "    def receiver(self) -> " ++ receiver ++ ":",
    "        return self._receiver",
    "",
    "    def path(self) -> " ++ paths ++ ":",
    "        return self._paths",
    "",
    "    def version(self) -> str:",
    "        return JINJAMUX_VERSION",
    "",
    "    def status_code(self, code: int) -> str:",
    "        self._status_code = int(code)",
    "        return ''",
    "",
    "    def header(self, key: str, value: str) -> str:",
    "        self._response.headers[key] = value",
    "        return ''",
    "",
    "    def redirect(self, url: str, code: int=HTTPStatus.SEE_OTHER) -> str:",
    "        if not 300 <= int(code) < 400:",
    "            raise ValueError(f'invalid status code \x7bcode\x7d for redirect')",
    "        self._redirect_url = url",
    "        self._status_code = int(code)",
    "        return ''"]

/-- The classes of every generated module.  The names in them are written in their
compatibility form. -/
def classes (config : Config) : List Piece := [
  responseWriter,
  templateData (Text.compatibilityForm config.templateDataType)
    (Text.compatibilityForm config.receiverInterface)
    (Text.compatibilityForm config.routePathsType)]

end Support

end FragmentRoutes.RoutesModule
