/-
  The standard classes.

  Of a class its module and name are listed, the classes it is derived from, the abstract
  classes it counts as without being derived from them, and the names of its own
  attributes, several in a text.  A name after a minus sign is there without a value.  A
  class without a dot in its name needs no module.  Each class comes after those that it
  is derived from.
-/

namespace FragmentRoutes.Host

/-- What is known of a standard class. -/
structure Standard where
  module : String
  name : String
  bases : List String
  countsAs : List String
  attributes : List String

namespace Standard

/-- The classes that need no module, errors apart. -/
def basic : List Standard := [
  ⟨"builtins", "object", [], [],
    ["__eq__ __format__ __ge__ __gt__ __hash__ __le__ __lt__ __ne__ __repr__ __str__"]⟩,
  ⟨"builtins", "type", ["object"], [],
    ["__base__ __bases__ __call__ __instancecheck__ __mro__ __name__ __or__ __prepare__",
     "__qualname__ __repr__ __ror__ __subclasscheck__ __subclasses__ mro"]⟩,
  ⟨"builtins", "int", ["object"], ["numbers.Integral"],
    ["__abs__ __add__ __and__ __bool__ __ceil__ __divmod__ __eq__ __float__ __floor__",
     "__floordiv__ __format__ __ge__ __getnewargs__ __gt__ __hash__ __index__ __int__ __invert__",
     "__le__ __lshift__ __lt__ __mod__ __mul__ __ne__ __neg__ __or__ __pos__ __pow__ __radd__",
     "__rand__ __rdivmod__ __repr__ __rfloordiv__ __rlshift__ __rmod__ __rmul__ __ror__",
     "__round__ __rpow__ __rrshift__ __rshift__ __rsub__ __rtruediv__ __rxor__ __sub__",
     "__truediv__ __trunc__ __xor__ as_integer_ratio bit_count bit_length conjugate denominator",
     "from_bytes imag numerator real to_bytes"]⟩,
  ⟨"builtins", "bool", ["int"], [],
    ["__and__ __or__ __rand__ __repr__ __ror__ __rxor__ __xor__"]⟩,
  ⟨"builtins", "float", ["object"], ["numbers.Real"],
    ["__abs__ __add__ __bool__ __ceil__ __divmod__ __eq__ __float__ __floor__ __floordiv__",
     "__format__ __ge__ __getformat__ __getnewargs__ __gt__ __hash__ __int__ __le__ __lt__",
     "__mod__ __mul__ __ne__ __neg__ __pos__ __pow__ __radd__ __rdivmod__ __repr__ __rfloordiv__",
     "__rmod__ __rmul__ __round__ __rpow__ __rsub__ __rtruediv__ __sub__ __truediv__ __trunc__",
     "as_integer_ratio conjugate fromhex hex imag is_integer real"]⟩,
  ⟨"builtins", "complex", ["object"], ["numbers.Complex"],
    ["__abs__ __add__ __bool__ __complex__ __eq__ __format__ __ge__ __getnewargs__ __gt__",
     "__hash__ __le__ __lt__ __mul__ __ne__ __neg__ __pos__ __pow__ __radd__ __repr__ __rmul__",
     "__rpow__ __rsub__ __rtruediv__ __sub__ __truediv__ conjugate imag real"]⟩,
  ⟨"builtins", "str", ["object"], ["collections.abc.Sequence"],
    ["__add__ __contains__ __eq__ __format__ __ge__ __getitem__ __getnewargs__ __gt__ __hash__",
     "__iter__ __le__ __len__ __lt__ __mod__ __mul__ __ne__ __repr__ __rmod__ __rmul__ __str__",
     "capitalize casefold center count encode endswith expandtabs find format format_map index",
     "isalnum isalpha isascii isdecimal isdigit isidentifier islower isnumeric isprintable",
     "isspace istitle isupper join ljust lower lstrip maketrans partition removeprefix",
     "removesuffix replace rfind rindex rjust rpartition rsplit rstrip split splitlines",
     "startswith strip swapcase title translate upper zfill"]⟩,
  ⟨"builtins", "bytes", ["object"], ["collections.abc.ByteString"],
    ["__add__ __bytes__ __contains__ __eq__ __ge__ __getitem__ __getnewargs__ __gt__ __hash__",
     "__iter__ __le__ __len__ __lt__ __mod__ __mul__ __ne__ __repr__ __rmod__ __rmul__ __str__",
     "capitalize center count decode endswith expandtabs find fromhex hex index isalnum isalpha",
     "isascii isdigit islower isspace istitle isupper join ljust lower lstrip maketrans",
     "partition removeprefix removesuffix replace rfind rindex rjust rpartition rsplit rstrip",
     "split splitlines startswith strip swapcase title translate upper zfill"]⟩,
  ⟨"builtins", "bytearray", ["object"],
    ["collections.abc.MutableSequence", "collections.abc.ByteString"],
    ["-__hash__ __add__ __alloc__ __contains__ __delitem__ __eq__ __ge__ __getitem__ __gt__",
     "__iadd__ __imul__ __iter__ __le__ __len__ __lt__ __mod__ __mul__ __ne__ __repr__ __rmod__",
     "__rmul__ __setitem__ __str__ append capitalize center clear copy count decode endswith",
     "expandtabs extend find fromhex hex index insert isalnum isalpha isascii isdigit islower",
     "isspace istitle isupper join ljust lower lstrip maketrans partition pop remove",
     "removeprefix removesuffix replace reverse rfind rindex rjust rpartition rsplit rstrip",
     "split splitlines startswith strip swapcase title translate upper zfill"]⟩,
  ⟨"builtins", "list", ["object"], ["collections.abc.MutableSequence"],
    ["-__hash__ __add__ __contains__ __delitem__ __eq__ __ge__ __getitem__ __gt__ __iadd__",
     "__imul__ __iter__ __le__ __len__ __lt__ __mul__ __ne__ __repr__ __reversed__ __rmul__",
     "__setitem__ append clear copy count extend index insert pop remove reverse sort"]⟩,
  ⟨"builtins", "tuple", ["object"], ["collections.abc.Sequence"],
    ["__add__ __contains__ __eq__ __ge__ __getitem__ __getnewargs__ __gt__ __hash__ __iter__",
     "__le__ __len__ __lt__ __mul__ __ne__ __repr__ __rmul__ count index"]⟩,
  ⟨"builtins", "dict", ["object"], ["collections.abc.MutableMapping"],
    ["-__hash__ __contains__ __delitem__ __eq__ __ge__ __getitem__ __gt__ __ior__ __iter__",
     "__le__ __len__ __lt__ __ne__ __or__ __repr__ __reversed__ __ror__ __setitem__ clear copy",
     "fromkeys get items keys pop popitem setdefault update values"]⟩,
  ⟨"builtins", "set", ["object"], ["collections.abc.MutableSet"],
    ["-__hash__ __and__ __contains__ __eq__ __ge__ __gt__ __iand__ __ior__ __isub__ __iter__",
     "__ixor__ __le__ __len__ __lt__ __ne__ __or__ __rand__ __repr__ __ror__ __rsub__ __rxor__",
     "__sub__ __xor__ add clear copy difference difference_update discard intersection",
     "intersection_update isdisjoint issubset issuperset pop remove symmetric_difference",
     "symmetric_difference_update union update"]⟩,
  ⟨"builtins", "frozenset", ["object"], ["collections.abc.Set"],
    ["__and__ __contains__ __eq__ __ge__ __gt__ __hash__ __iter__ __le__ __len__ __lt__ __ne__",
     "__or__ __rand__ __repr__ __ror__ __rsub__ __rxor__ __sub__ __xor__ copy difference",
     "intersection isdisjoint issubset issuperset symmetric_difference union"]⟩,
  ⟨"builtins", "range", ["object"], ["collections.abc.Sequence"],
    ["__bool__ __contains__ __eq__ __ge__ __getitem__ __gt__ __hash__ __iter__ __le__ __len__",
     "__lt__ __ne__ __repr__ __reversed__ count index start step stop"]⟩,
  ⟨"builtins", "memoryview", ["object"], ["collections.abc.Sequence"],
    ["__delitem__ __enter__ __eq__ __exit__ __ge__ __getitem__ __gt__ __hash__ __iter__ __le__",
     "__len__ __lt__ __ne__ __repr__ __setitem__ c_contiguous cast contiguous f_contiguous",
     "format hex itemsize nbytes ndim obj readonly release shape strides suboffsets tobytes",
     "tolist toreadonly"]⟩,
  ⟨"builtins", "slice", ["object"], [],
    ["-__hash__ __eq__ __ge__ __gt__ __le__ __lt__ __ne__ __repr__ indices start step stop"]⟩,
  ⟨"builtins", "property", ["object"], [],
    ["__delete__ __get__ __isabstractmethod__ __set__ __set_name__ deleter fdel fget fset getter",
     "setter"]⟩,
  ⟨"builtins", "staticmethod", ["object"], [],
    ["__call__ __func__ __get__ __isabstractmethod__ __repr__ __wrapped__"]⟩,
  ⟨"builtins", "classmethod", ["object"], [],
    ["__func__ __get__ __isabstractmethod__ __repr__ __wrapped__"]⟩,
  ⟨"builtins", "super", ["object"], [],
    ["__get__ __repr__ __self__ __self_class__ __thisclass__"]⟩,
  ⟨"builtins", "enumerate", ["object"], [],
    ["__iter__ __next__"]⟩,
  ⟨"builtins", "filter", ["object"], [],
    ["__iter__ __next__"]⟩,
  ⟨"builtins", "map", ["object"], [],
    ["__iter__ __next__"]⟩,
  ⟨"builtins", "zip", ["object"], [],
    ["__iter__ __next__"]⟩,
  ⟨"builtins", "reversed", ["object"], [],
    ["__iter__ __length_hint__ __next__"]⟩,
  ⟨"builtins", "NoneType", ["object"], [],
    ["__bool__ __repr__"]⟩,
  ⟨"builtins", "module", ["object"], [],
    ["__repr__"]⟩,
  ⟨"builtins", "function", ["object"], [],
    ["__builtins__ __call__ __closure__ __code__ __defaults__ __get__ __globals__ __kwdefaults__",
     "__name__ __qualname__ __repr__"]⟩,
  ⟨"builtins", "mappingproxy", ["object"], ["collections.abc.Mapping"],
    ["-__hash__ __contains__ __eq__ __ge__ __getitem__ __gt__ __ior__ __iter__ __le__ __len__",
     "__lt__ __ne__ __or__ __repr__ __reversed__ __ror__ __str__ copy get items keys values"]⟩]

/-- The classes of containers in general terms. -/
def containers : List Standard := [
  ⟨"collections.abc", "Hashable", ["object"], [],
    ["__hash__"]⟩,
  ⟨"collections.abc", "Awaitable", ["object"], [],
    ["__await__"]⟩,
  ⟨"collections.abc", "Coroutine", ["collections.abc.Awaitable"], [],
    ["close send throw"]⟩,
  ⟨"collections.abc", "AsyncIterable", ["object"], [],
    ["__aiter__"]⟩,
  ⟨"collections.abc", "AsyncIterator", ["collections.abc.AsyncIterable"], [],
    ["__aiter__ __anext__"]⟩,
  ⟨"collections.abc", "AsyncGenerator", ["collections.abc.AsyncIterator"], [],
    ["__anext__ aclose asend athrow"]⟩,
  ⟨"collections.abc", "Iterable", ["object"], [],
    ["__iter__"]⟩,
  ⟨"collections.abc", "Iterator", ["collections.abc.Iterable"], [],
    ["__iter__ __next__"]⟩,
  ⟨"collections.abc", "Generator", ["collections.abc.Iterator"], [],
    ["__next__ close send throw"]⟩,
  ⟨"collections.abc", "Reversible", ["collections.abc.Iterable"], [],
    ["__reversed__"]⟩,
  ⟨"collections.abc", "Sized", ["object"], [],
    ["__len__"]⟩,
  ⟨"collections.abc", "Container", ["object"], [],
    ["__contains__"]⟩,
  ⟨"collections.abc", "Callable", ["object"], [],
    ["__call__"]⟩,
  ⟨"collections.abc", "Collection",
    ["collections.abc.Sized", "collections.abc.Iterable", "collections.abc.Container"],
    [],
    []⟩,
  ⟨"collections.abc", "Set", ["collections.abc.Collection"], [],
    ["-__hash__ __and__ __eq__ __ge__ __gt__ __le__ __lt__ __or__ __rand__ __ror__ __rsub__",
     "__rxor__ __sub__ __xor__ isdisjoint"]⟩,
  ⟨"collections.abc", "MutableSet", ["collections.abc.Set"], [],
    ["__iand__ __ior__ __isub__ __ixor__ add clear discard pop remove"]⟩,
  ⟨"collections.abc", "Mapping", ["collections.abc.Collection"], [],
    ["-__hash__ -__reversed__ __contains__ __eq__ __getitem__ get items keys values"]⟩,
  ⟨"collections.abc", "MutableMapping", ["collections.abc.Mapping"], [],
    ["__delitem__ __setitem__ clear pop popitem setdefault update"]⟩,
  ⟨"collections.abc", "MappingView", ["collections.abc.Sized"], [],
    ["__len__ __repr__"]⟩,
  ⟨"collections.abc", "KeysView", ["collections.abc.MappingView", "collections.abc.Set"], [],
    ["__contains__ __iter__"]⟩,
  ⟨"collections.abc", "ItemsView", ["collections.abc.MappingView", "collections.abc.Set"], [],
    ["__contains__ __iter__"]⟩,
  ⟨"collections.abc", "ValuesView", ["collections.abc.MappingView", "collections.abc.Collection"],
    [],
    ["__contains__ __iter__"]⟩,
  ⟨"collections.abc", "Sequence", ["collections.abc.Reversible", "collections.abc.Collection"], [],
    ["__contains__ __getitem__ __iter__ __reversed__ count index"]⟩,
  ⟨"collections.abc", "MutableSequence", ["collections.abc.Sequence"], [],
    ["__delitem__ __iadd__ __setitem__ append clear extend insert pop remove reverse"]⟩,
  ⟨"collections.abc", "ByteString", ["collections.abc.Sequence"], [], []⟩]

/-- The classes of numbers in general terms. -/
def kindsOfNumbers : List Standard := [
  ⟨"numbers", "Number", ["object"], [],
    ["-__hash__"]⟩,
  ⟨"numbers", "Complex", ["numbers.Number"], [],
    ["-__hash__ __abs__ __add__ __bool__ __complex__ __eq__ __mul__ __neg__ __pos__ __pow__",
     "__radd__ __rmul__ __rpow__ __rsub__ __rtruediv__ __sub__ __truediv__ conjugate imag real"]⟩,
  ⟨"numbers", "Real", ["numbers.Complex"], [],
    ["__ceil__ __complex__ __divmod__ __float__ __floor__ __floordiv__ __le__ __lt__ __mod__",
     "__rdivmod__ __rfloordiv__ __rmod__ __round__ __trunc__ conjugate imag real"]⟩,
  ⟨"numbers", "Rational", ["numbers.Real"], [],
    ["__float__ denominator numerator"]⟩,
  ⟨"numbers", "Integral", ["numbers.Rational"], [],
    ["__and__ __float__ __index__ __int__ __invert__ __lshift__ __or__ __pow__ __rand__",
     "__rlshift__ __ror__ __rrshift__ __rshift__ __rxor__ __xor__ denominator numerator"]⟩]

/-- The classes of errors. -/
def errors : List Standard := [
  ⟨"builtins", "BaseException", ["object"], [],
    ["__cause__ __context__ __repr__ __str__ __suppress_context__ __traceback__ add_note args",
     "with_traceback"]⟩,
  ⟨"builtins", "Exception", ["BaseException"], [], []⟩,
  ⟨"builtins", "ArithmeticError", ["Exception"], [], []⟩,
  ⟨"builtins", "AssertionError", ["Exception"], [], []⟩,
  ⟨"builtins", "AttributeError", ["Exception"], [],
    ["__str__ name obj"]⟩,
  ⟨"builtins", "BaseExceptionGroup", ["BaseException"], [],
    ["__str__ derive exceptions message split subgroup"]⟩,
  ⟨"builtins", "OSError", ["Exception"], [],
    ["__str__ characters_written errno filename filename2 strerror"]⟩,
  ⟨"builtins", "BlockingIOError", ["OSError"], [], []⟩,
  ⟨"builtins", "ConnectionError", ["OSError"], [], []⟩,
  ⟨"builtins", "BrokenPipeError", ["ConnectionError"], [], []⟩,
  ⟨"builtins", "BufferError", ["Exception"], [], []⟩,
  ⟨"builtins", "Warning", ["Exception"], [], []⟩,
  ⟨"builtins", "BytesWarning", ["Warning"], [], []⟩,
  ⟨"builtins", "ChildProcessError", ["OSError"], [], []⟩,
  ⟨"builtins", "ConnectionAbortedError", ["ConnectionError"], [], []⟩,
  ⟨"builtins", "ConnectionRefusedError", ["ConnectionError"], [], []⟩,
  ⟨"builtins", "ConnectionResetError", ["ConnectionError"], [], []⟩,
  ⟨"builtins", "DeprecationWarning", ["Warning"], [], []⟩,
  ⟨"builtins", "EOFError", ["Exception"], [], []⟩,
  ⟨"builtins", "EncodingWarning", ["Warning"], [], []⟩,
  ⟨"builtins", "ExceptionGroup", ["BaseExceptionGroup", "Exception"], [], []⟩,
  ⟨"builtins", "FileExistsError", ["OSError"], [], []⟩,
  ⟨"builtins", "FileNotFoundError", ["OSError"], [], []⟩,
  ⟨"builtins", "FloatingPointError", ["ArithmeticError"], [], []⟩,
  ⟨"builtins", "FutureWarning", ["Warning"], [], []⟩,
  ⟨"builtins", "GeneratorExit", ["BaseException"], [], []⟩,
  ⟨"builtins", "ImportError", ["Exception"], [],
    ["__str__ msg name path"]⟩,
  ⟨"builtins", "ImportWarning", ["Warning"], [], []⟩,
  ⟨"builtins", "SyntaxError", ["Exception"], [],
    ["__str__ end_lineno end_offset filename lineno msg offset print_file_and_line text"]⟩,
  ⟨"builtins", "IndentationError", ["SyntaxError"], [], []⟩,
  ⟨"builtins", "LookupError", ["Exception"], [], []⟩,
  ⟨"builtins", "IndexError", ["LookupError"], [], []⟩,
  ⟨"builtins", "InterruptedError", ["OSError"], [], []⟩,
  ⟨"builtins", "IsADirectoryError", ["OSError"], [], []⟩,
  ⟨"builtins", "KeyError", ["LookupError"], [],
    ["__str__"]⟩,
  ⟨"builtins", "KeyboardInterrupt", ["BaseException"], [], []⟩,
  ⟨"builtins", "MemoryError", ["Exception"], [], []⟩,
  ⟨"builtins", "ModuleNotFoundError", ["ImportError"], [], []⟩,
  ⟨"builtins", "NameError", ["Exception"], [],
    ["__str__ name"]⟩,
  ⟨"builtins", "NotADirectoryError", ["OSError"], [], []⟩,
  ⟨"builtins", "RuntimeError", ["Exception"], [], []⟩,
  ⟨"builtins", "NotImplementedError", ["RuntimeError"], [], []⟩,
  ⟨"builtins", "OverflowError", ["ArithmeticError"], [], []⟩,
  ⟨"builtins", "PendingDeprecationWarning", ["Warning"], [], []⟩,
  ⟨"builtins", "PermissionError", ["OSError"], [], []⟩,
  ⟨"builtins", "ProcessLookupError", ["OSError"], [], []⟩,
  ⟨"builtins", "RecursionError", ["RuntimeError"], [], []⟩,
  ⟨"builtins", "ReferenceError", ["Exception"], [], []⟩,
  ⟨"builtins", "ResourceWarning", ["Warning"], [], []⟩,
  ⟨"builtins", "RuntimeWarning", ["Warning"], [], []⟩,
  ⟨"builtins", "StopAsyncIteration", ["Exception"], [], []⟩,
  ⟨"builtins", "StopIteration", ["Exception"], [],
    ["value"]⟩,
  ⟨"builtins", "SyntaxWarning", ["Warning"], [], []⟩,
  ⟨"builtins", "SystemError", ["Exception"], [], []⟩,
  ⟨"builtins", "SystemExit", ["BaseException"], [],
    ["code"]⟩,
  ⟨"builtins", "TabError", ["IndentationError"], [], []⟩,
  ⟨"builtins", "TimeoutError", ["OSError"], [], []⟩,
  ⟨"builtins", "TypeError", ["Exception"], [], []⟩,
  ⟨"builtins", "UnboundLocalError", ["NameError"], [], []⟩,
  ⟨"builtins", "ValueError", ["Exception"], [], []⟩,
  ⟨"builtins", "UnicodeError", ["ValueError"], [], []⟩,
  ⟨"builtins", "UnicodeDecodeError", ["UnicodeError"], [],
    ["__str__ encoding end object reason start"]⟩,
  ⟨"builtins", "UnicodeEncodeError", ["UnicodeError"], [],
    ["__str__ encoding end object reason start"]⟩,
  ⟨"builtins", "UnicodeTranslateError", ["UnicodeError"], [],
    ["__str__ encoding end object reason start"]⟩,
  ⟨"builtins", "UnicodeWarning", ["Warning"], [], []⟩,
  ⟨"builtins", "UserWarning", ["Warning"], [], []⟩,
  ⟨"builtins", "ZeroDivisionError", ["ArithmeticError"], [], []⟩]

/-- The classes that only say something about other classes. -/
def markers : List Standard := [
  ⟨"typing", "Generic", ["object"], [], []⟩,
  ⟨"typing", "Protocol", ["typing.Generic"], [], []⟩,
  ⟨"typing", "Annotated", ["object"], [], []⟩,
  ⟨"typing", "SupportsInt", ["typing.Protocol"], [],
    ["__int__"]⟩,
  ⟨"typing", "SupportsFloat", ["typing.Protocol"], [],
    ["__float__"]⟩,
  ⟨"typing", "SupportsComplex", ["typing.Protocol"], [],
    ["__complex__"]⟩,
  ⟨"typing", "SupportsBytes", ["typing.Protocol"], [],
    ["__bytes__"]⟩,
  ⟨"typing", "SupportsIndex", ["typing.Protocol"], [],
    ["__index__"]⟩,
  ⟨"typing", "SupportsAbs", ["typing.Protocol"], [],
    ["__abs__"]⟩,
  ⟨"typing", "SupportsRound", ["typing.Protocol"], [],
    ["__round__"]⟩]

/-- Other classes of the standard library. -/
def others : List Standard := [
  ⟨"collections", "OrderedDict", ["dict"], [],
    ["-__hash__ __delitem__ __eq__ __ge__ __gt__ __ior__ __iter__ __le__ __lt__ __ne__ __or__",
     "__repr__ __reversed__ __ror__ __setitem__ clear copy fromkeys items keys move_to_end pop",
     "popitem setdefault update values"]⟩,
  ⟨"collections", "defaultdict", ["dict"], [],
    ["__copy__ __missing__ __or__ __repr__ __ror__ copy default_factory"]⟩,
  ⟨"collections", "Counter", ["dict"], [],
    ["-__hash__ __add__ __and__ __delitem__ __eq__ __ge__ __gt__ __iadd__ __iand__ __ior__",
     "__isub__ __le__ __lt__ __missing__ __ne__ __neg__ __or__ __pos__ __repr__ __sub__ copy",
     "elements fromkeys most_common subtract total update"]⟩,
  ⟨"collections", "deque", ["object"], ["collections.abc.MutableSequence"],
    ["-__hash__ __add__ __contains__ __copy__ __delitem__ __eq__ __ge__ __getitem__ __gt__",
     "__iadd__ __imul__ __iter__ __le__ __len__ __lt__ __mul__ __ne__ __repr__ __reversed__",
     "__rmul__ __setitem__ append appendleft clear copy count extend extendleft index insert",
     "maxlen pop popleft remove reverse rotate"]⟩,
  ⟨"collections", "ChainMap", ["collections.abc.MutableMapping"], [],
    ["__bool__ __contains__ __copy__ __delitem__ __getitem__ __ior__ __iter__ __len__",
     "__missing__ __or__ __repr__ __ror__ __setitem__ clear copy fromkeys get new_child parents",
     "pop popitem"]⟩,
  ⟨"collections", "UserDict", ["collections.abc.MutableMapping"], [],
    ["__contains__ __copy__ __delitem__ __getitem__ __ior__ __iter__ __len__ __or__ __repr__",
     "__ror__ __setitem__ copy fromkeys"]⟩,
  ⟨"collections", "UserList", ["collections.abc.MutableSequence"], [],
    ["-__hash__ __add__ __contains__ __copy__ __delitem__ __eq__ __ge__ __getitem__ __gt__",
     "__iadd__ __imul__ __le__ __len__ __lt__ __mul__ __radd__ __repr__ __rmul__ __setitem__",
     "append clear copy count extend index insert pop remove reverse sort"]⟩,
  ⟨"collections", "UserString", ["collections.abc.Sequence"], [],
    ["__add__ __complex__ __contains__ __eq__ __float__ __ge__ __getitem__ __getnewargs__ __gt__",
     "__hash__ __int__ __le__ __len__ __lt__ __mod__ __mul__ __radd__ __repr__ __rmod__ __rmul__",
     "__str__ capitalize casefold center count encode endswith expandtabs find format format_map",
     "index isalnum isalpha isascii isdecimal isdigit isidentifier islower isnumeric isprintable",
     "isspace istitle isupper join ljust lower lstrip maketrans partition removeprefix",
     "removesuffix replace rfind rindex rjust rpartition rsplit rstrip split splitlines",
     "startswith strip swapcase title translate upper zfill"]⟩,
  ⟨"datetime", "date", ["object"], [],
    ["__add__ __eq__ __format__ __ge__ __gt__ __hash__ __le__ __lt__ __ne__ __radd__ __repr__",
     "__rsub__ __str__ __sub__ ctime day fromisocalendar fromisoformat fromordinal fromtimestamp",
     "isocalendar isoformat isoweekday max min month replace resolution strftime timetuple today",
     "toordinal weekday year"]⟩,
  ⟨"datetime", "datetime", ["datetime.date"], [],
    ["__add__ __eq__ __ge__ __gt__ __hash__ __le__ __lt__ __ne__ __radd__ __repr__ __rsub__",
     "__str__ __sub__ astimezone combine ctime date dst fold fromisoformat fromtimestamp hour",
     "isoformat max microsecond min minute now replace resolution second strptime time timestamp",
     "timetuple timetz tzinfo tzname utcfromtimestamp utcnow utcoffset utctimetuple"]⟩,
  ⟨"datetime", "time", ["object"], [],
    ["__eq__ __format__ __ge__ __gt__ __hash__ __le__ __lt__ __ne__ __repr__ __str__ dst fold",
     "fromisoformat hour isoformat max microsecond min minute replace resolution second strftime",
     "tzinfo tzname utcoffset"]⟩,
  ⟨"datetime", "timedelta", ["object"], [],
    ["__abs__ __add__ __bool__ __divmod__ __eq__ __floordiv__ __ge__ __gt__ __hash__ __le__",
     "__lt__ __mod__ __mul__ __ne__ __neg__ __pos__ __radd__ __rdivmod__ __repr__ __rfloordiv__",
     "__rmod__ __rmul__ __rsub__ __rtruediv__ __str__ __sub__ __truediv__ days max microseconds",
     "min resolution seconds total_seconds"]⟩,
  ⟨"datetime", "tzinfo", ["object"], [],
    ["dst fromutc tzname utcoffset"]⟩,
  ⟨"datetime", "timezone", ["datetime.tzinfo"], [],
    ["__eq__ __ge__ __getinitargs__ __gt__ __hash__ __le__ __lt__ __ne__ __repr__ __str__ dst",
     "fromutc max min tzname utc utcoffset"]⟩,
  ⟨"decimal", "Decimal", ["object"], ["numbers.Number"],
    ["__abs__ __add__ __bool__ __ceil__ __complex__ __copy__ __deepcopy__ __divmod__ __eq__",
     "__float__ __floor__ __floordiv__ __format__ __ge__ __gt__ __hash__ __int__ __le__ __lt__",
     "__mod__ __mul__ __ne__ __neg__ __pos__ __pow__ __radd__ __rdivmod__ __repr__ __rfloordiv__",
     "__rmod__ __rmul__ __round__ __rpow__ __rsub__ __rtruediv__ __str__ __sub__ __truediv__",
     "__trunc__ adjusted as_integer_ratio as_tuple canonical compare compare_signal",
     "compare_total compare_total_mag conjugate copy_abs copy_negate copy_sign exp fma",
     "from_float imag is_canonical is_finite is_infinite is_nan is_normal is_qnan is_signed",
     "is_snan is_subnormal is_zero ln log10 logb logical_and logical_invert logical_or",
     "logical_xor max max_mag min min_mag next_minus next_plus next_toward normalize",
     "number_class quantize radix real remainder_near rotate same_quantum scaleb shift sqrt",
     "to_eng_string to_integral to_integral_exact to_integral_value"]⟩,
  ⟨"fractions", "Fraction", ["numbers.Rational"], [],
    ["__abs__ __add__ __bool__ __ceil__ __copy__ __deepcopy__ __divmod__ __eq__ __floor__",
     "__floordiv__ __ge__ __gt__ __hash__ __int__ __le__ __lt__ __mod__ __mul__ __neg__ __pos__",
     "__pow__ __radd__ __rdivmod__ __repr__ __rfloordiv__ __rmod__ __rmul__ __round__ __rpow__",
     "__rsub__ __rtruediv__ __str__ __sub__ __truediv__ __trunc__ as_integer_ratio denominator",
     "from_decimal from_float limit_denominator numerator"]⟩,
  ⟨"uuid", "UUID", ["object"], [],
    ["__eq__ __ge__ __gt__ __hash__ __int__ __le__ __lt__ __repr__ __str__ bytes bytes_le",
     "clock_seq clock_seq_hi_variant clock_seq_low fields hex int is_safe node time",
     "time_hi_version time_low time_mid urn variant version"]⟩,
  ⟨"abc", "ABC", ["object"], [], []⟩,
  ⟨"os", "PathLike", ["abc.ABC"], [],
    ["__fspath__"]⟩,
  ⟨"pathlib", "PurePath", ["object"], ["os.PathLike"],
    ["__bytes__ __eq__ __fspath__ __ge__ __gt__ __hash__ __le__ __lt__ __repr__ __rtruediv__",
     "__str__ __truediv__ anchor as_posix as_uri drive is_absolute is_relative_to is_reserved",
     "joinpath match name parent parents parts relative_to root stem suffix suffixes with_name",
     "with_stem with_suffix"]⟩,
  ⟨"pathlib", "PurePosixPath", ["pathlib.PurePath"], [], []⟩,
  ⟨"pathlib", "PureWindowsPath", ["pathlib.PurePath"], [], []⟩,
  ⟨"pathlib", "Path", ["pathlib.PurePath"], [],
    ["__enter__ __exit__ absolute chmod cwd exists expanduser glob group hardlink_to home",
     "is_block_device is_char_device is_dir is_fifo is_file is_mount is_socket is_symlink",
     "iterdir lchmod link_to lstat mkdir open owner read_bytes read_text readlink rename replace",
     "resolve rglob rmdir samefile stat symlink_to touch unlink write_bytes write_text"]⟩,
  ⟨"pathlib", "PosixPath", ["pathlib.Path", "pathlib.PurePosixPath"], [], []⟩,
  ⟨"enum", "Enum", ["object"], [],
    ["__copy__ __deepcopy__ __format__ __hash__ __repr__ __str__ name value"]⟩,
  ⟨"enum", "ReprEnum", ["enum.Enum"], [], []⟩,
  ⟨"enum", "IntEnum", ["int", "enum.ReprEnum"], [],
    ["__format__ __repr__ __str__"]⟩,
  ⟨"enum", "StrEnum", ["str", "enum.ReprEnum"], [],
    ["__format__ __new_member__ __repr__ __str__"]⟩,
  ⟨"enum", "Flag", ["enum.Enum"], [],
    ["__and__ __bool__ __contains__ __invert__ __iter__ __len__ __or__ __rand__ __repr__ __ror__",
     "__rxor__ __str__ __xor__"]⟩,
  ⟨"enum", "IntFlag", ["int", "enum.ReprEnum", "enum.Flag"], [],
    ["__and__ __format__ __invert__ __or__ __rand__ __repr__ __ror__ __rxor__ __str__ __xor__"]⟩,
  ⟨"http", "HTTPStatus", ["enum.IntEnum"], [],
    ["ACCEPTED ALREADY_REPORTED BAD_GATEWAY BAD_REQUEST CONFLICT CONTINUE CREATED EARLY_HINTS",
     "EXPECTATION_FAILED FAILED_DEPENDENCY FORBIDDEN FOUND GATEWAY_TIMEOUT GONE",
     "HTTP_VERSION_NOT_SUPPORTED IM_A_TEAPOT IM_USED INSUFFICIENT_STORAGE INTERNAL_SERVER_ERROR",
     "LENGTH_REQUIRED LOCKED LOOP_DETECTED METHOD_NOT_ALLOWED MISDIRECTED_REQUEST",
     "MOVED_PERMANENTLY MULTIPLE_CHOICES MULTI_STATUS NETWORK_AUTHENTICATION_REQUIRED",
     "NON_AUTHORITATIVE_INFORMATION NOT_ACCEPTABLE NOT_EXTENDED NOT_FOUND NOT_IMPLEMENTED",
     "NOT_MODIFIED NO_CONTENT OK PARTIAL_CONTENT PAYMENT_REQUIRED PERMANENT_REDIRECT",
     "PRECONDITION_FAILED PRECONDITION_REQUIRED PROCESSING PROXY_AUTHENTICATION_REQUIRED",
     "REQUESTED_RANGE_NOT_SATISFIABLE REQUEST_ENTITY_TOO_LARGE REQUEST_HEADER_FIELDS_TOO_LARGE",
     "REQUEST_TIMEOUT REQUEST_URI_TOO_LONG RESET_CONTENT SEE_OTHER SERVICE_UNAVAILABLE",
     "SWITCHING_PROTOCOLS TEMPORARY_REDIRECT TOO_EARLY TOO_MANY_REQUESTS UNAUTHORIZED",
     "UNAVAILABLE_FOR_LEGAL_REASONS UNPROCESSABLE_ENTITY UNSUPPORTED_MEDIA_TYPE UPGRADE_REQUIRED",
     "USE_PROXY VARIANT_ALSO_NEGOTIATES __format__ __new_member__"]⟩,
  ⟨"http", "HTTPMethod", ["enum.StrEnum"], [],
    ["CONNECT DELETE GET HEAD OPTIONS PATCH POST PUT TRACE __format__ __new_member__ __repr__",
     "__str__"]⟩,
  ⟨"re", "Pattern", ["object"], [],
    ["__copy__ __deepcopy__ __eq__ __ge__ __gt__ __hash__ __le__ __lt__ __ne__ __repr__ findall",
     "finditer flags fullmatch groupindex groups match pattern scanner search split sub subn"]⟩,
  ⟨"re", "Match", ["object"], [],
    ["__copy__ __deepcopy__ __getitem__ __repr__ end endpos expand group groupdict groups",
     "lastgroup lastindex pos re regs span start string"]⟩,
  ⟨"contextlib", "AbstractContextManager", ["abc.ABC"], [],
    ["__enter__ __exit__"]⟩,
  ⟨"contextlib", "AbstractAsyncContextManager", ["abc.ABC"], [],
    ["__aenter__ __aexit__"]⟩]

/-- The classes of requests, responses, templates and models. -/
def web : List Standard := [
  ⟨"starlette.datastructures", "Address", ["tuple"], [],
    ["_asdict _fields _make _replace host port"]⟩,
  ⟨"starlette.datastructures", "URL", ["object"], [],
    ["-__hash__ __eq__ __repr__ __str__ components fragment hostname include_query_params",
     "is_secure netloc password path port query remove_query_params replace replace_query_params",
     "scheme username"]⟩,
  ⟨"starlette.datastructures", "URLPath", ["str"], [],
    ["make_absolute_url"]⟩,
  ⟨"starlette.datastructures", "Secret", ["object"], [],
    ["__bool__ __repr__ __str__"]⟩,
  ⟨"starlette.datastructures", "CommaSeparatedStrings", ["collections.abc.Sequence"], [],
    ["__getitem__ __iter__ __len__ __repr__ __str__"]⟩,
  ⟨"starlette.datastructures", "ImmutableMultiDict", ["collections.abc.Mapping", "typing.Generic"],
    [],
    ["-__hash__ __contains__ __eq__ __getitem__ __iter__ __len__ __repr__ getlist items keys",
     "multi_items values"]⟩,
  ⟨"starlette.datastructures", "MultiDict", ["starlette.datastructures.ImmutableMultiDict"], [],
    ["__delitem__ __setitem__ append clear pop popitem poplist setdefault setlist update"]⟩,
  ⟨"starlette.datastructures", "QueryParams", ["starlette.datastructures.ImmutableMultiDict"], [],
    ["__repr__ __str__"]⟩,
  ⟨"starlette.datastructures", "UploadFile", ["object"], [],
    ["__repr__ close content_type read seek write"]⟩,
  ⟨"starlette.datastructures", "FormData", ["starlette.datastructures.ImmutableMultiDict"], [],
    ["close"]⟩,
  ⟨"starlette.datastructures", "Headers", ["collections.abc.Mapping"], [],
    ["-__hash__ __contains__ __eq__ __getitem__ __iter__ __len__ __repr__ getlist items keys",
     "mutablecopy raw values"]⟩,
  ⟨"starlette.datastructures", "MutableHeaders", ["starlette.datastructures.Headers"], [],
    ["__delitem__ __ior__ __or__ __setitem__ add_vary_header append raw setdefault update"]⟩,
  ⟨"starlette.datastructures", "State", ["object"], [],
    ["__delattr__ __getattr__ __setattr__"]⟩,
  ⟨"starlette.requests", "HTTPConnection", ["collections.abc.Mapping"], [],
    ["__eq__ __getitem__ __hash__ __iter__ __len__ app auth base_url client cookies headers",
     "path_params query_params session state url url_for user"]⟩,
  ⟨"starlette.requests", "Request", ["starlette.requests.HTTPConnection"], [],
    ["body close form is_disconnected json method receive send_push_promise stream"]⟩,
  ⟨"starlette.requests", "ClientDisconnect", ["Exception"], [], []⟩,
  ⟨"starlette.websockets", "WebSocket", ["starlette.requests.HTTPConnection"], [],
    ["accept close iter_bytes iter_json iter_text receive receive_bytes receive_json",
     "receive_text send send_bytes send_denial_response send_json send_text"]⟩,
  ⟨"starlette.websockets", "WebSocketDisconnect", ["Exception"], [], []⟩,
  ⟨"starlette.exceptions", "HTTPException", ["Exception"], [],
    ["__repr__ __str__"]⟩,
  ⟨"starlette.exceptions", "WebSocketException", ["Exception"], [],
    ["__repr__ __str__"]⟩,
  ⟨"starlette.responses", "Response", ["object"], [],
    ["__call__ charset delete_cookie headers init_headers media_type render set_cookie"]⟩,
  ⟨"starlette.responses", "HTMLResponse", ["starlette.responses.Response"], [],
    ["media_type"]⟩,
  ⟨"starlette.responses", "PlainTextResponse", ["starlette.responses.Response"], [],
    ["media_type"]⟩,
  ⟨"starlette.responses", "JSONResponse", ["starlette.responses.Response"], [],
    ["media_type render"]⟩,
  ⟨"starlette.responses", "RedirectResponse", ["starlette.responses.Response"], [], []⟩,
  ⟨"starlette.responses", "StreamingResponse", ["starlette.responses.Response"], [],
    ["__call__ listen_for_disconnect stream_response"]⟩,
  ⟨"starlette.responses", "FileResponse", ["starlette.responses.Response"], [],
    ["__call__ chunk_size generate_multipart set_stat_headers"]⟩,
  ⟨"starlette.background", "BackgroundTask", ["object"], [],
    ["__call__"]⟩,
  ⟨"starlette.background", "BackgroundTasks", ["starlette.background.BackgroundTask"], [],
    ["__call__ add_task"]⟩,
  ⟨"starlette.applications", "Starlette", ["object"], [],
    ["__call__ add_exception_handler add_middleware add_route build_middleware_stack host mount",
     "routes url_path_for"]⟩,
  ⟨"starlette.templating", "Jinja2Templates", ["object"], [],
    ["TemplateResponse get_template"]⟩,
  ⟨"jinja2.environment", "Environment", ["object"], [],
    ["add_extension call_filter call_test compile compile_expression extend from_string",
     "get_or_select_template get_template getattr getitem handle_exception iter_extensions",
     "join_path lex list_templates make_globals overlay parse preprocess select_template shared",
     "undefined"]⟩,
  ⟨"jinja2.environment", "Template", ["object"], [],
    ["__repr__ debug_info environment_class from_code from_module_dict generate generate_async",
     "get_corresponding_lineno is_up_to_date make_module make_module_async module new_context",
     "render render_async stream"]⟩,
  ⟨"pydantic.main", "BaseModel", ["object"], [],
    ["-__hash__ __copy__ __deepcopy__ __eq__ __getattr__ __iter__ __pretty__ __replace__",
     "__repr__ __repr_args__ __repr_name__ __rich_repr__ __str__ construct copy dict from_orm",
     "json model_computed_fields model_config model_construct model_copy model_dump",
     "model_dump_json model_extra model_fields model_fields_set model_json_schema",
     "model_parametrized_name model_post_init model_rebuild model_validate model_validate_json",
     "model_validate_strings parse_file parse_obj parse_raw schema schema_json",
     "update_forward_refs validate"]⟩]

/-- All standard classes. -/
def all : List Standard :=
  basic ++ containers ++ kindsOfNumbers ++ errors ++ markers ++ others ++ web

end Standard

end FragmentRoutes.Host
