/-!
Traits: what can be asked of a thing by a name, whatever it holds, only because it is of a type. A
trait is a plain thing, something to call that gives a plain thing, or something that refuses to be
called without arguments. A path of attributes may lead through any of them, so that they decide which
paths lead on, and what is reported of those that do not; no result depends on what is in the tables.
-/
namespace OperatorConsole

/-- What a name gives for all things of a type. -/
inductive Trait where
  /-- A plain thing of a type. -/
  | value (typeName : String)
  /-- Something to call that gives a plain thing of a type. -/
  | result (typeName : String)
  /-- A collection of a type with nothing in it. -/
  | nothing (typeName : String)
  /-- Something that refuses to be called. -/
  | refusal (message : String)
  /-- Something that takes just one argument. -/
  | single
  /-- A part of all things that stands for itself and needs one of them. -/
  | unbound
  /-- A method of all things that stands for itself and needs one of them. -/
  | unboundMethod
  deriving DecidableEq, Repr

/-- The traits of all things of a type of a name. -/
def commonTraits (typeName : String) : List (Trait × List String) := [
  (.value "str", ["__doc__"]), (.result "str", ["__repr__", "__str__"]),
  (.result "int", ["__hash__", "__sizeof__"]), (.result "list", ["__dir__"]),
  (.result "NoneType", ["__init__", "__getstate__", "__init_subclass__"]),
  (.result "NotImplementedType", ["__subclasshook__"]),
  (.refusal "expected 1 argument, got 0", [
    "__delattr__", "__eq__", "__ge__", "__getattribute__", "__gt__", "__le__", "__lt__", "__ne__"]),
  (.refusal " expected 2 arguments, got 0", ["__setattr__"]),
  (.single, ["__format__", "__reduce_ex__"]),
  (.refusal s!"{typeName}.__new__(): not enough arguments", ["__new__"]),
  (.refusal s!"cannot pickle '{typeName}' object", ["__reduce__"])]

/-- The traits of each type that it has beside the common ones or in their place. -/
def ownTraits : List (String × List (Trait × List String)) := [
  ("str", [
    (.result "str", [
      "capitalize", "casefold", "expandtabs", "format", "lower", "lstrip", "rstrip", "strip",
      "swapcase", "title", "upper"]),
    (.refusal "center expected at least 1 argument, got 0", ["center"]),
    (.refusal "count() takes at least 1 argument (0 given)", ["count"]),
    (.result "bytes", ["encode"]),
    (.refusal "endswith() takes at least 1 argument (0 given)", ["endswith"]),
    (.refusal "find() takes at least 1 argument (0 given)", ["find"]),
    (.single, [
      "format_map", "join", "partition", "removeprefix", "removesuffix", "rpartition",
      "translate", "zfill"]),
    (.refusal "index() takes at least 1 argument (0 given)", ["index"]),
    (.result "bool", [
      "isalnum", "isalpha", "isascii", "isdecimal", "isdigit", "isidentifier", "islower",
      "isnumeric", "isprintable", "isspace", "istitle", "isupper"]),
    (.refusal "ljust expected at least 1 argument, got 0", ["ljust"]),
    (.refusal "maketrans expected at least 1 argument, got 0", ["maketrans"]),
    (.refusal "replace expected at least 2 arguments, got 0", ["replace"]),
    (.refusal "rfind() takes at least 1 argument (0 given)", ["rfind"]),
    (.refusal "rindex() takes at least 1 argument (0 given)", ["rindex"]),
    (.refusal "rjust expected at least 1 argument, got 0", ["rjust"]),
    (.result "list", ["rsplit", "split", "splitlines"]),
    (.refusal "startswith() takes at least 1 argument (0 given)", ["startswith"]),
    (.refusal "expected 1 argument, got 0", [
      "__add__", "__contains__", "__getitem__", "__mod__", "__rmod__"]),
    (.result "tuple", ["__getnewargs__"]),
    (.result "str_ascii_iterator", ["__iter__"]),
    (.result "int", ["__len__"]),
    (.refusal " expected 1 argument, got 0", ["__mul__", "__rmul__"])]),
  ("int", [
    (.result "tuple", ["as_integer_ratio", "__getnewargs__"]),
    (.result "int", [
      "bit_count", "bit_length", "conjugate", "__abs__", "__ceil__", "__floor__", "__index__",
      "__int__", "__invert__", "__neg__", "__pos__", "__round__", "__trunc__"]),
    (.value "int", ["denominator", "imag", "numerator", "real"]),
    (.refusal "from_bytes() missing required argument 'bytes' (pos 1)", ["from_bytes"]),
    (.result "bytes", ["to_bytes"]),
    (.refusal "expected 1 argument, got 0", [
      "__add__", "__and__", "__divmod__", "__floordiv__", "__lshift__", "__mod__", "__mul__",
      "__or__", "__radd__", "__rand__", "__rdivmod__", "__rfloordiv__", "__rlshift__",
      "__rmod__", "__rmul__", "__ror__", "__rrshift__", "__rshift__", "__rsub__", "__rtruediv__",
      "__rxor__", "__sub__", "__truediv__", "__xor__"]),
    (.result "bool", ["__bool__"]),
    (.result "float", ["__float__"]),
    (.refusal " expected at least 1 argument, got 0", ["__pow__", "__rpow__"])]),
  ("bytes", [
    (.result "bytes", [
      "capitalize", "expandtabs", "lower", "lstrip", "rstrip", "strip", "swapcase", "title",
      "upper", "__bytes__"]),
    (.refusal "center expected at least 1 argument, got 0", ["center"]),
    (.refusal "count() takes at least 1 argument (0 given)", ["count"]),
    (.result "str", ["decode", "hex"]),
    (.refusal "endswith() takes at least 1 argument (0 given)", ["endswith"]),
    (.refusal "find() takes at least 1 argument (0 given)", ["find"]),
    (.single, [
      "fromhex", "join", "partition", "removeprefix", "removesuffix", "rpartition", "zfill"]),
    (.refusal "index() takes at least 1 argument (0 given)", ["index"]),
    (.result "bool", [
      "isalnum", "isalpha", "isascii", "isdigit", "islower", "isspace", "istitle", "isupper"]),
    (.refusal "ljust expected at least 1 argument, got 0", ["ljust"]),
    (.refusal "maketrans expected 2 arguments, got 0", ["maketrans"]),
    (.refusal "replace expected at least 2 arguments, got 0", ["replace"]),
    (.refusal "rfind() takes at least 1 argument (0 given)", ["rfind"]),
    (.refusal "rindex() takes at least 1 argument (0 given)", ["rindex"]),
    (.refusal "rjust expected at least 1 argument, got 0", ["rjust"]),
    (.result "list", ["rsplit", "split", "splitlines"]),
    (.refusal "startswith() takes at least 1 argument (0 given)", ["startswith"]),
    (.refusal "translate() takes at least 1 positional argument (0 given)", ["translate"]),
    (.refusal "expected 1 argument, got 0", [
      "__add__", "__contains__", "__getitem__", "__mod__", "__rmod__"]),
    (.result "tuple", ["__getnewargs__"]),
    (.result "bytes_iterator", ["__iter__"]),
    (.result "int", ["__len__"]),
    (.refusal " expected 1 argument, got 0", ["__mul__", "__rmul__"])]),
  ("list", [
    (.single, ["append", "count", "extend", "remove", "__class_getitem__", "__getitem__"]),
    (.result "NoneType", ["clear", "reverse"]),
    (.refusal "index expected at least 1 argument, got 0", ["index"]),
    (.refusal "insert expected 2 arguments, got 0", ["insert"]),
    (.refusal "expected 1 argument, got 0", [
      "__add__", "__contains__", "__delitem__", "__iadd__"]),
    (.value "NoneType", ["__hash__"]),
    (.refusal " expected 1 argument, got 0", ["__imul__", "__mul__", "__rmul__"]),
    (.result "int", ["__len__"]),
    (.refusal " expected 2 arguments, got 0", ["__setitem__"])]),
  ("tuple", [
    (.single, ["count", "__class_getitem__"]),
    (.refusal "index expected at least 1 argument, got 0", ["index"]),
    (.refusal "expected 1 argument, got 0", ["__add__", "__contains__", "__getitem__"]),
    (.result "tuple", ["__getnewargs__"]),
    (.result "int", ["__len__"]),
    (.refusal " expected 1 argument, got 0", ["__mul__", "__rmul__"])]),
  ("dict", [
    (.result "NoneType", ["clear", "update"]),
    (.result "dict", ["copy"]),
    (.refusal "fromkeys expected at least 1 argument, got 0", ["fromkeys"]),
    (.refusal "get expected at least 1 argument, got 0", ["get"]),
    (.result "dict_items", ["items"]),
    (.result "dict_keys", ["keys"]),
    (.refusal "pop expected at least 1 argument, got 0", ["pop"]),
    (.result "tuple", ["popitem"]),
    (.refusal "setdefault expected at least 1 argument, got 0", ["setdefault"]),
    (.result "dict_values", ["values"]),
    (.single, ["__class_getitem__", "__contains__", "__getitem__"]),
    (.refusal "expected 1 argument, got 0", ["__delitem__", "__ior__", "__or__", "__ror__"]),
    (.value "NoneType", ["__hash__"]),
    (.result "dict_keyiterator", ["__iter__"]),
    (.result "int", ["__len__"]),
    (.result "dict_reversekeyiterator", ["__reversed__"]),
    (.refusal " expected 2 arguments, got 0", ["__setitem__"])]),
  ("NoneType", [
    (.result "bool", ["__bool__"]),
    (.value "NoneType", ["__doc__"])]),
  ("function", [
    (.nothing "dict", ["__annotations__", "__dict__"]),
    (.value "dict", ["__builtins__", "__globals__"]),
    (.value "NoneType", ["__closure__", "__defaults__", "__doc__", "__kwdefaults__"]),
    (.value "code", ["__code__"]),
    (.refusal " expected at least 1 argument, got 0", ["__get__"]),
    (.value "str", ["__module__", "__name__", "__qualname__"])]),
  ("SimpleNamespace", [
    (.value "dict", ["__dict__"]),
    (.result "dict", ["__getstate__"]),
    (.value "NoneType", ["__hash__"]),
    (.refusal "types.SimpleNamespace.__new__(): not enough arguments", ["__new__"]),
    (.result "tuple", ["__reduce__"])]),
  ("module", [
    (.nothing "dict", ["__annotations__"]),
    (.value "dict", ["__dict__"]),
    (.value "NoneType", ["__doc__", "__loader__", "__package__", "__spec__"]),
    (.refusal "__format__() takes exactly one argument (0 given)", ["__format__"]),
    (.result "dict", ["__getstate__"]),
    (.refusal "module() missing required argument 'name' (pos 1)", ["__init__"]),
    (.value "str", ["__name__"]),
    (.refusal "__reduce_ex__() takes exactly one argument (0 given)", ["__reduce_ex__"])]),
  ("type", [
    (.nothing "dict", ["__annotations__", "__prepare__"]),
    (.value "int", [
      "__basicsize__", "__dictoffset__", "__flags__", "__itemsize__", "__weakrefoffset__"]),
    (.unbound, [
      "__delattr__", "__eq__", "__ge__", "__getattribute__", "__gt__", "__hash__", "__init__",
      "__le__", "__lt__", "__ne__", "__repr__", "__setattr__", "__str__"]),
    (.value "mappingproxy", ["__dict__"]),
    (.unboundMethod, [
      "__dir__", "__format__", "__getstate__", "__reduce__", "__reduce_ex__", "__sizeof__"]),
    (.value "NoneType", ["__doc__"]),
    (.result "NoneType", ["__init_subclass__"]),
    (.value "str", ["__module__", "__name__", "__qualname__"]),
    (.refusal "object.__new__(): not enough arguments", ["__new__"]),
    (.refusal "expected 1 argument, got 0", ["__or__", "__ror__"]),
    (.result "NotImplementedType", ["__subclasshook__"]),
    (.value "getset_descriptor", ["__weakref__"])])]

/-- The trait of a name in groups of traits. -/
def traitIn? (groups : List (Trait × List String)) (name : String) : Option Trait :=
  (groups.find? fun (_, names) => names.contains name).map (·.1)

/-- The trait of a name for things of a type. -/
def trait? (typeName name : String) : Option Trait :=
  (traitIn? ((ownTraits.lookup typeName).getD []) name).or (traitIn? (commonTraits typeName) name)

end OperatorConsole
