/-!
# What types give their values

A value has attributes that it owes to its type: methods and operators, which can be called, and data.
`ValueType.given?` says what a name stands for among them. Most types share what they have with others,
so that a type's names are those that are shared and its own.
-/

namespace ConfigTokens.Module

/-- The types of values. -/
inductive ValueType where
  | null
  | bool
  | int
  | float
  | str
  | bytes
  | list
  | mapping
  | function
  | module
  | classType
  /-- The type of an instance that cannot be called. -/
  | plain
  /-- The type of an instance that can be called. -/
  | callable
  /-- The type of a method. -/
  | method
  deriving DecidableEq, Repr

/-- What a name stands for among the attributes that a type gives. -/
inductive Given where
  | method
  | operator
  | data
  deriving DecidableEq, Repr

namespace Given

/-- What a type gives can be called. -/
def isCallable : Given → Bool
  | .method | .operator => true
  | .data => false

end Given

namespace ValueType

/-- The methods that values of all types have; the first one is the type itself. -/
def sharedMethods : List String :=
  ["__class__", "__dir__", "__format__", "__getstate__", "__init_subclass__", "__new__",
    "__reduce__", "__reduce_ex__", "__sizeof__", "__subclasshook__"]

/-- The operators that values of all types have. -/
def sharedOperators : List String :=
  ["__delattr__", "__eq__", "__ge__", "__getattribute__", "__gt__", "__init__", "__le__", "__lt__",
    "__ne__", "__repr__", "__setattr__", "__str__"]

/-- The methods of all numbers. -/
def numberMethods : List String :=
  ["__ceil__", "__floor__", "__getnewargs__", "__round__", "__trunc__", "as_integer_ratio",
    "conjugate"]

/-- The operators of all numbers. -/
def numberOperators : List String :=
  ["__abs__", "__add__", "__bool__", "__divmod__", "__float__", "__floordiv__", "__int__",
    "__mod__", "__mul__", "__neg__", "__pos__", "__pow__", "__radd__", "__rdivmod__",
    "__rfloordiv__", "__rmod__", "__rmul__", "__rpow__", "__rsub__", "__rtruediv__", "__sub__",
    "__truediv__"]

/-- The methods of text and of bytes. -/
def textMethods : List String :=
  ["__getnewargs__", "capitalize", "center", "count", "endswith", "expandtabs", "find", "index",
    "isalnum", "isalpha", "isascii", "isdigit", "islower", "isspace", "istitle", "isupper", "join",
    "ljust", "lower", "lstrip", "maketrans", "partition", "removeprefix", "removesuffix", "replace",
    "rfind", "rindex", "rjust", "rpartition", "rsplit", "rstrip", "split", "splitlines",
    "startswith", "strip", "swapcase", "title", "translate", "upper", "zfill"]

/-- The operators of all sequences. -/
def sequenceOperators : List String :=
  ["__add__", "__contains__", "__iter__", "__len__", "__mul__", "__rmul__"]

/-- The operators of text and of bytes. -/
def textOperators : List String :=
  sequenceOperators ++ ["__getitem__", "__mod__", "__rmod__"]

/-- The methods that a type has beside the shared ones. -/
def ownMethods : ValueType → List String
  | .bool | .int => numberMethods ++ ["bit_count", "bit_length", "from_bytes", "to_bytes"]
  | .float => numberMethods ++ ["__getformat__", "fromhex", "hex", "is_integer"]
  | .str =>
    textMethods ++
      ["casefold", "encode", "format", "format_map", "isdecimal", "isidentifier", "isnumeric",
        "isprintable"]
  | .bytes => textMethods ++ ["__bytes__", "decode", "fromhex", "hex"]
  | .list =>
    ["__class_getitem__", "__getitem__", "__reversed__", "append", "clear", "copy", "count",
      "extend", "index", "insert", "pop", "remove", "reverse", "sort"]
  | .mapping =>
    ["__class_getitem__", "__contains__", "__getitem__", "__reversed__", "clear", "copy",
      "fromkeys", "get", "items", "keys", "pop", "popitem", "setdefault", "update", "values"]
  | .classType =>
    ["__base__", "__instancecheck__", "__prepare__", "__subclasscheck__", "__subclasses__", "mro"]
  | .null | .function | .module | .plain | .callable | .method => []

/-- The operators that a type has beside the shared ones; lists and mappings have no hash. -/
def ownOperators : ValueType → List String
  | .null => ["__hash__", "__bool__"]
  | .bool | .int =>
    "__hash__" :: numberOperators ++
      ["__and__", "__index__", "__invert__", "__lshift__", "__or__", "__rand__", "__rlshift__",
        "__ror__", "__rrshift__", "__rshift__", "__rxor__", "__xor__"]
  | .float => "__hash__" :: numberOperators
  | .str | .bytes => "__hash__" :: textOperators
  | .list => sequenceOperators ++ ["__delitem__", "__iadd__", "__imul__", "__setitem__"]
  | .mapping =>
    ["__delitem__", "__ior__", "__iter__", "__len__", "__or__", "__ror__", "__setitem__"]
  | .function => ["__hash__", "__call__", "__get__"]
  | .classType => ["__hash__", "__call__", "__or__", "__ror__"]
  | .callable | .method => ["__hash__", "__call__"]
  | .module | .plain => ["__hash__"]

/-- The data that values of a type have. -/
def data : ValueType → List String
  | .null | .str | .bytes => ["__doc__"]
  | .bool | .int => ["__doc__", "denominator", "imag", "numerator", "real"]
  | .float => ["__doc__", "imag", "real"]
  | .list | .mapping => ["__doc__", "__hash__"]
  | .function =>
    ["__annotations__", "__builtins__", "__closure__", "__code__", "__defaults__", "__dict__",
      "__doc__", "__globals__", "__kwdefaults__", "__module__", "__name__", "__qualname__"]
  | .module => ["__annotations__", "__dict__", "__doc__"]
  | .classType =>
    ["__annotations__", "__bases__", "__basicsize__", "__dict__", "__dictoffset__", "__doc__",
      "__flags__", "__itemsize__", "__module__", "__mro__", "__name__", "__qualname__",
      "__text_signature__", "__weakref__", "__weakrefoffset__"]
  | .plain | .callable => ["__dict__", "__doc__", "__module__", "__weakref__"]
  | .method =>
    ["__doc__", "__module__", "__name__", "__qualname__", "__self__", "__text_signature__"]

/-- What a name stands for among the attributes that a type gives its values. -/
def given?
    (type : ValueType)
    (name : String) : Option Given :=
  if sharedMethods.contains name || type.ownMethods.contains name then some .method
  else if sharedOperators.contains name || type.ownOperators.contains name then some .operator
  else if type.data.contains name then some .data
  else none

end ValueType

end ConfigTokens.Module
