import SetupScript.Template.Value

/-!
# Names of methods

The methods of values, by the type that they belong to.  A type has the methods of its values too, which
then take the value as their first argument.
-/

namespace SetupScript.Template

/-! ## Special methods -/

/-- The names of special methods. -/
def special (words : List String) : List String :=
  words.map fun word => "__" ++ word ++ "__"

/-- The word in the name of a special method. -/
def specialWord (name : String) : String :=
  String.ofList ((name.toList.drop 2).dropLast.dropLast)

/-- The special methods of all values. -/
def commonWords : List String :=
  ["eq", "format", "ge", "getattribute", "gt", "hash", "le", "lt", "ne", "repr", "str"]

/-- The special methods of numbers. -/
def numberWords : List String :=
  ["abs", "add", "bool", "getnewargs", "mul", "neg", "pos", "pow", "radd", "rmul", "rpow", "rsub",
    "rtruediv", "sub", "truediv"]

/-- The special methods of numbers that are not complex. -/
def realWords : List String :=
  ["ceil", "divmod", "float", "floor", "floordiv", "int", "mod", "rdivmod", "rfloordiv", "rmod", "round",
    "trunc"]

/-- The special methods of integers. -/
def wholeWords : List String :=
  ["and", "index", "invert", "lshift", "or", "rand", "rlshift", "ror", "rrshift", "rshift", "rxor", "xor"]

/-- The special methods of values with places. -/
def sequenceWords : List String :=
  ["add", "contains", "getitem", "iter", "len", "mul", "rmul"]

/-- The special methods of values that are like sets. -/
def memberWords : List String :=
  ["and", "contains", "iter", "len", "or", "rand", "ror", "rsub", "rxor", "sub", "xor"]

/-! ## Methods -/

/-- The methods of texts. -/
def textMethods : List String :=
  ["capitalize", "casefold", "center", "count", "encode", "endswith", "expandtabs", "find", "format",
    "format_map", "index", "isalnum", "isalpha", "isascii", "isdecimal", "isdigit", "isidentifier",
    "islower", "isnumeric", "isprintable", "isspace", "istitle", "isupper", "join", "ljust", "lower",
    "lstrip", "maketrans", "partition", "removeprefix", "removesuffix", "replace", "rfind", "rindex",
    "rjust", "rpartition", "rsplit", "rstrip", "split", "splitlines", "startswith", "strip",
    "swapcase", "title", "translate", "upper", "zfill"] ++
  special (sequenceWords ++ ["getnewargs", "mod", "rmod"])

/-- The methods of texts that count as escaped, beyond those of other texts. -/
def markupMethods : List String :=
  ["__html__", "escape", "striptags", "unescape"]

/-- The methods of bytes. -/
def bytesMethods : List String :=
  ["capitalize", "center", "count", "decode", "endswith", "expandtabs", "find", "fromhex", "hex", "index",
    "isalnum", "isalpha", "isascii", "isdigit", "islower", "isspace", "istitle", "isupper", "join",
    "ljust", "lower", "lstrip", "maketrans", "partition", "removeprefix", "removesuffix", "replace",
    "rfind", "rindex", "rjust", "rpartition", "rsplit", "rstrip", "split", "splitlines", "startswith",
    "strip", "swapcase", "title", "translate", "upper", "zfill"] ++
  special (sequenceWords ++ ["bytes", "getnewargs"])

/-- The methods of lists. -/
def listMethods : List String :=
  ["append", "clear", "copy", "count", "extend", "index", "insert", "pop", "remove", "reverse", "sort"] ++
  special (sequenceWords ++ ["delitem", "iadd", "imul", "reversed", "setitem"])

/-- The methods of mappings. -/
def mappingMethods : List String :=
  ["clear", "copy", "fromkeys", "get", "items", "keys", "pop", "popitem", "setdefault", "update",
    "values"] ++
  special ["contains", "delitem", "getitem", "ior", "iter", "len", "or", "reversed", "ror", "setitem"]

/-- The methods of sets. -/
def setMethods : List String :=
  ["add", "clear", "copy", "difference", "difference_update", "discard", "intersection",
    "intersection_update", "isdisjoint", "issubset", "issuperset", "pop", "remove",
    "symmetric_difference", "symmetric_difference_update", "union", "update"] ++
  special (memberWords ++ ["iand", "ior", "isub", "ixor"])

/-- The methods of views that are like sets. -/
def viewMethods : List String :=
  "isdisjoint" :: special (memberWords ++ ["reversed"])

/-- The methods of integers. -/
def integerMethods : List String :=
  ["as_integer_ratio", "bit_count", "bit_length", "conjugate", "from_bytes", "to_bytes"] ++
  special (numberWords ++ realWords ++ wholeWords)

/-- The methods of floating-point numbers. -/
def decimalMethods : List String :=
  ["as_integer_ratio", "conjugate", "hex", "is_integer"] ++ special (numberWords ++ realWords)

/-- The methods of ranges. -/
def rangeMethods : List String :=
  ["count", "index"] ++ special ["bool", "contains", "getitem", "iter", "len", "reversed"]

/-- The methods of a type that not all types have. -/
def ownMethods (type : String) : List String :=
  match type with
  | "str" => textMethods
  | "markupsafe.Markup" => textMethods ++ markupMethods
  | "bytes" => bytesMethods
  | "list" => listMethods
  | "tuple" | "jinja2.filters._GroupTuple" =>
    ["count", "index"] ++ special ("getnewargs" :: sequenceWords)
  | "range" => rangeMethods
  | "dict" => mappingMethods
  | "set" => setMethods
  | "dict_keys" | "dict_items" => viewMethods
  | "dict_values" => special ["iter", "len", "reversed"]
  | "bool" | "int" => integerMethods
  | "float" => decimalMethods
  | "complex" => "conjugate" :: special ("complex" :: numberWords)
  | "NoneType" | "NotImplementedType" => special ["bool"]
  | "jinja2.utils.Cycler" => ["next", "reset", "__next__"]
  | "jinja2.runtime.LoopContext" => special ["iter", "len", "next"]
  | _ => []

namespace Form

/-- Whether a value has no methods but the names that it is given, or none because it is missing. -/
def isBare : Form → Bool
  | .record _ | .undefined _ => true
  | _ => false

/-- Whether a value has a method. -/
def hasMethod (form : Form) (name : String) : Bool :=
  match form with
  | .kind type =>
    ["__call__", "mro"].contains name || (special commonWords).contains name ||
      (ownMethods type).contains name
  | .stream sort _ =>
    (special (["iter", "next"] ++ commonWords)).contains name ||
      (sort == .generator && ["close", "send"].contains name)
  | form =>
    !form.isBare &&
      ((ownMethods form.typeName).contains name || (special commonWords).contains name ||
        (form.isCallable && name == "__call__"))

end Form

/-! ## Types -/

/-- The types that a type is made of, itself first. -/
def typeChain (type : String) : List String :=
  match type with
  | "object" => ["object"]
  | "bool" => ["bool", "int", "object"]
  | "markupsafe.Markup" => ["markupsafe.Markup", "str", "object"]
  | "jinja2.filters._GroupTuple" => ["jinja2.filters._GroupTuple", "tuple", "object"]
  | "jinja2.runtime.StrictUndefined" =>
    ["jinja2.runtime.StrictUndefined", "jinja2.runtime.Undefined", "object"]
  | _ => [type, "object"]

/-- The module and the name of a type or function. -/
def splitName (name : String) : String × String :=
  match (name.splitOn ".").reverse with
  | [] | [_] => ("builtins", name)
  | last :: modules => (String.intercalate "." modules.reverse, last)

end SetupScript.Template
