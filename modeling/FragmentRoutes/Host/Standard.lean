/-
  Standard names.

  A type of the application may be named by the path of a standard class, or by a name
  among the typing names.  Some paths lead to a class of another module (`homes`), and
  some typing names are other names of a class (`aliases`).  A path that is not listed
  names a class of its own, which is derived from nothing but the class of all values.
-/
import FragmentRoutes.Host.Basic
import FragmentRoutes.Host.Standard.Classes

namespace FragmentRoutes.Host

namespace Standard

/-- The key of a class that is named by its path, or by its name alone when it needs no
module. -/
def keyOf (path : String) : String :=
  if path.contains '.' then path else "builtins." ++ path

/-- The identity of a standard class. -/
def id (s : Standard) : ClassId :=
  .standard s.module s.name

/-- The names of the attributes with a value. -/
def present (s : Standard) : List String :=
  (s.attributes.flatMap (·.splitOn " ")).filter fun name => !name.startsWith "-"

/-- The names of the attributes without a value. -/
def void (s : Standard) : List String :=
  (s.attributes.flatMap (·.splitOn " ")).filterMap fun name =>
    if name.startsWith "-" then some (String.ofList (name.toList.drop 1)) else none

/-- The standard class of a key. -/
def find? (key : String) : Option Standard :=
  all.find? fun s => s.id.key == key

/-- The class that a path leads to when its module is not the one in the path. -/
def homes : List (String × String × String) := [
  ("pydantic.BaseModel", "pydantic.main", "BaseModel"),
  ("starlette.requests.FormData", "starlette.datastructures", "FormData"),
  ("starlette.requests.URL", "starlette.datastructures", "URL"),
  ("starlette.requests.Headers", "starlette.datastructures", "Headers"),
  ("starlette.requests.QueryParams", "starlette.datastructures", "QueryParams"),
  ("starlette.requests.State", "starlette.datastructures", "State"),
  ("starlette.responses.BackgroundTask", "starlette.background", "BackgroundTask"),
  ("starlette.responses.URL", "starlette.datastructures", "URL"),
  ("jinja2.Environment", "jinja2.environment", "Environment"),
  ("jinja2.Template", "jinja2.environment", "Template"),
  ("io.BytesIO", "_io", "BytesIO"),
  ("io.StringIO", "_io", "StringIO"),
  ("io.TextIOWrapper", "_io", "TextIOWrapper"),
  ("io.BufferedReader", "_io", "BufferedReader"),
  ("io.BufferedWriter", "_io", "BufferedWriter"),
  ("types.NoneType", "builtins", "NoneType"),
  ("types.ModuleType", "builtins", "module"),
  ("types.FunctionType", "builtins", "function"),
  ("types.LambdaType", "builtins", "function"),
  ("types.MethodType", "builtins", "method"),
  ("types.BuiltinFunctionType", "builtins", "builtin_function_or_method"),
  ("types.GeneratorType", "builtins", "generator"),
  ("types.CoroutineType", "builtins", "coroutine"),
  ("types.AsyncGeneratorType", "builtins", "async_generator"),
  ("types.EllipsisType", "builtins", "ellipsis"),
  ("types.NotImplementedType", "builtins", "NotImplementedType"),
  ("types.MappingProxyType", "builtins", "mappingproxy"),
  ("types.CodeType", "builtins", "code"),
  ("types.FrameType", "builtins", "frame"),
  ("types.TracebackType", "builtins", "traceback"),
  ("types.CellType", "builtins", "cell"),
  ("typing.Text", "builtins", "str"),
  ("builtins.IOError", "builtins", "OSError"),
  ("builtins.EnvironmentError", "builtins", "OSError"),
  ("json.JSONDecodeError", "json.decoder", "JSONDecodeError"),
  ("json.JSONEncoder", "json.encoder", "JSONEncoder"),
  ("json.JSONDecoder", "json.decoder", "JSONDecoder"),
  ("asyncio.Future", "_asyncio", "Future"),
  ("asyncio.Task", "_asyncio", "Task"),
  ("asyncio.Event", "asyncio.locks", "Event"),
  ("asyncio.Lock", "asyncio.locks", "Lock"),
  ("asyncio.Queue", "asyncio.queues", "Queue"),
  ("asyncio.TimeoutError", "builtins", "TimeoutError"),
  ("asyncio.CancelledError", "asyncio.exceptions", "CancelledError"),
  ("concurrent.futures.Future", "concurrent.futures._base", "Future")]

/-- The typing names that are other names of a class. -/
def aliases : List (String × String) := [
  ("AbstractSet", "collections.abc.Set"),
  ("AsyncContextManager", "contextlib.AbstractAsyncContextManager"),
  ("AsyncGenerator", "collections.abc.AsyncGenerator"),
  ("AsyncIterable", "collections.abc.AsyncIterable"),
  ("AsyncIterator", "collections.abc.AsyncIterator"),
  ("Awaitable", "collections.abc.Awaitable"),
  ("ByteString", "collections.abc.ByteString"),
  ("Callable", "collections.abc.Callable"),
  ("ChainMap", "collections.ChainMap"),
  ("Collection", "collections.abc.Collection"),
  ("Container", "collections.abc.Container"),
  ("ContextManager", "contextlib.AbstractContextManager"),
  ("Coroutine", "collections.abc.Coroutine"),
  ("Counter", "collections.Counter"),
  ("DefaultDict", "collections.defaultdict"),
  ("Deque", "collections.deque"),
  ("Dict", "builtins.dict"),
  ("FrozenSet", "builtins.frozenset"),
  ("Generator", "collections.abc.Generator"),
  ("Hashable", "collections.abc.Hashable"),
  ("ItemsView", "collections.abc.ItemsView"),
  ("Iterable", "collections.abc.Iterable"),
  ("Iterator", "collections.abc.Iterator"),
  ("KeysView", "collections.abc.KeysView"),
  ("List", "builtins.list"),
  ("Mapping", "collections.abc.Mapping"),
  ("MappingView", "collections.abc.MappingView"),
  ("Match", "re.Match"),
  ("MutableMapping", "collections.abc.MutableMapping"),
  ("MutableSequence", "collections.abc.MutableSequence"),
  ("MutableSet", "collections.abc.MutableSet"),
  ("OrderedDict", "collections.OrderedDict"),
  ("Pattern", "re.Pattern"),
  ("Reversible", "collections.abc.Reversible"),
  ("Sequence", "collections.abc.Sequence"),
  ("Set", "builtins.set"),
  ("Sized", "collections.abc.Sized"),
  ("Tuple", "builtins.tuple"),
  ("Type", "builtins.type"),
  ("ValuesView", "collections.abc.ValuesView")]

/-- The typing names that are special forms. -/
def specialForms : List String := [
  "ClassVar", "Concatenate", "Final", "Literal", "LiteralString", "Never", "NoReturn",
  "NotRequired", "Optional", "Required", "Self", "TypeAlias", "TypeGuard", "Union", "Unpack"]

/-- The typing names that are type variables. -/
def typeVariables : List String := ["AnyStr", "T", "KT", "VT"]

/-- The class that a dotted path leads to. -/
def classOf (path : String) : ClassId :=
  match homes.find? fun h => h.1 == path with
  | some (_, module, name) => .standard module name
  | none =>
    let parts := path.splitOn "."
    .standard (".".intercalate parts.dropLast) (parts.getLastD path)

end Standard

end Host

namespace HostType

open Host

/-- The type that a typing name stands for. -/
def ofTypingName (name : String) : HostType :=
  if name == "Any" then .any
  else if Standard.specialForms.contains name then .special name []
  else if Standard.typeVariables.contains name then .var name
  else match Standard.aliases.find? fun a => a.1 == name with
    | some (_, path) => .synonym name (Standard.classOf path)
    | none => .cls (Standard.classOf ("typing." ++ name))

/-- The type that a standard name stands for. -/
def ofName (name : String) : HostType :=
  match name with
  | "None" => .nothing
  | "Any" => .any
  | "..." => .ellipsis
  | "T" => .var "T"
  | "ResponseWriter" => .generated "ResponseWriter"
  | "Protocol" => .cls (.standard "typing" "Protocol")
  | _ =>
    if name.startsWith "typing." then ofTypingName (String.ofList (name.toList.drop 7))
    else .cls (Standard.classOf (Standard.keyOf name))

end HostType

end FragmentRoutes
