/-!
# Names of filters and tests

The filters and tests that a template may name.  A template that names another one is refused before
it is rendered, unless the name stands where it may never be reached.
-/

namespace SetupScript.Template

/-- The names of the filters. -/
def filterNames : List String :=
  ["abs", "attr", "batch", "capitalize", "center", "count", "d", "default", "dictsort", "e",
    "escape", "filesizeformat", "first", "float", "forceescape", "format", "groupby", "indent",
    "int", "items", "join", "last", "length", "list", "lower", "map", "max", "min", "pprint",
    "random", "reject", "rejectattr", "replace", "reverse", "round", "safe", "select",
    "selectattr", "slice", "sort", "string", "striptags", "sum", "title", "tojson", "trim",
    "truncate", "unique", "upper", "urlencode", "urlize", "wordcount", "wordwrap", "xmlattr"]

/-- The names of the tests. -/
def testNames : List String :=
  ["!=", "<", "<=", "==", ">", ">=", "boolean", "callable", "defined", "divisibleby", "eq",
    "equalto", "escaped", "even", "false", "filter", "float", "ge", "greaterthan", "gt", "in",
    "integer", "iterable", "le", "lessthan", "lower", "lt", "mapping", "ne", "none", "number",
    "odd", "sameas", "sequence", "string", "test", "true", "undefined", "upper"]

end SetupScript.Template
