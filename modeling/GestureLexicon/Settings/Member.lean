/-!
What settings know by names that belong to no section. Nothing there takes a setting, and why not
depends on the kind of what is there.
-/

namespace GestureLexicon.Settings

def operations : List String :=
  ["construct", "copy", "dict", "from_orm", "json", "model_construct", "model_copy", "model_dump",
   "model_dump_json", "model_json_schema", "model_parametrized_name", "model_post_init",
   "model_rebuild", "model_validate", "model_validate_json", "model_validate_strings", "parse_file",
   "parse_obj", "parse_raw", "schema", "schema_json", "update_forward_refs", "validate",
   "_calculate_keys", "_check_coefficient_count", "_copy_and_set_values", "_get_value", "_iter",
   "_setattr_handler", "__class_getitem__", "__copy__", "__deepcopy__", "__delattr__", "__eq__",
   "__get_pydantic_core_schema__", "__get_pydantic_json_schema__", "__getattr__", "__getstate__",
   "__init__", "__iter__", "__pretty__", "__pydantic_init_subclass__",
   "__pydantic_on_complete__", "__repr__", "__repr_args__", "__repr_name__", "__repr_recursion__",
   "__repr_str__", "__replace__", "__rich_repr__", "__setattr__", "__setstate__", "__str__"]

def commonOperations : List String :=
  ["__dir__", "__format__", "__init_subclass__", "__new__", "__reduce__", "__reduce_ex__",
   "__sizeof__", "__subclasshook__"]

def comparisons : List String :=
  ["__ge__", "__getattribute__", "__gt__", "__le__", "__lt__", "__ne__"]

def memberKind? (name : String) : Option String :=
  match name with
  | "model_config" | "model_fields" | "model_computed_fields" | "__annotations__" | "__dict__"
  | "__fields__" | "__private_attributes__" | "__pydantic_computed_fields__"
  | "__pydantic_core_schema__" | "__pydantic_fields__" | "__pydantic_generic_metadata__"
  | "__pydantic_setattr_handlers__" => some "dict"
  | "model_fields_set" | "__class_vars__" | "__fields_set__" | "__pydantic_fields_set__" =>
    some "set"
  | "model_extra" | "__hash__" | "__pydantic_extra__" | "__pydantic_extra_info__"
  | "__pydantic_parent_namespace__" | "__pydantic_post_init__" | "__pydantic_private__"
  | "__weakref__" => some "NoneType"
  | "__doc__" | "__module__" => some "str"
  | "__pydantic_complete__" | "__pydantic_custom_init__" | "__pydantic_root_model__" => some "bool"
  | "__pydantic_decorators__" => some "DecoratorInfos"
  | "__pydantic_serializer__" => some "pydantic_core._pydantic_core.SchemaSerializer"
  | "__pydantic_validator__" => some "pydantic_core._pydantic_core.SchemaValidator"
  | "__abstractmethods__" => some "frozenset"
  | "__slots__" => some "tuple"
  | "_abc_impl" => some "_abc._abc_data"
  | _ =>
    if operations.contains name then some "method"
    else if commonOperations.contains name then some "builtin_function_or_method"
    else if comparisons.contains name then some "method-wrapper"
    else none

/-- Why nothing can be assigned to a name of something that is no section. -/
inductive MemberFault where
  | absent (kind name : String)
  /-- A name of all values of a kind. -/
  | shared (kind name : String)
  /-- A name for what follows from a value. -/
  | derived (kind name : String)
  | fixed
  /-- A value that cannot take the place of a type. -/
  | notAType (kind : String)
  deriving DecidableEq, Repr

def MemberFault.message : MemberFault → String
  | absent kind name => s!"'{kind}' object has no attribute '{name}'"
  | shared kind name => s!"'{kind}' object attribute '{name}' is read-only"
  | derived kind name => s!"attribute '{name}' of '{kind}' objects is not writable"
  | fixed => "readonly attribute"
  | notAType kind => s!"__class__ must be set to a class, not '{kind}' object"

def sharedNames : List String :=
  ["__delattr__", "__dir__", "__eq__", "__format__", "__ge__", "__getattribute__", "__getstate__",
   "__gt__", "__hash__", "__init__", "__init_subclass__", "__le__", "__lt__", "__ne__", "__new__",
   "__reduce__", "__reduce_ex__", "__repr__", "__setattr__", "__sizeof__", "__str__",
   "__subclasshook__"]

def sharedNamesOf : String → List String
  | "dict" =>
    ["__class_getitem__", "__contains__", "__delitem__", "__doc__", "__getitem__", "__ior__",
     "__iter__", "__len__", "__or__", "__reversed__", "__ror__", "__setitem__", "clear", "copy",
     "fromkeys", "get", "items", "keys", "pop", "popitem", "setdefault", "update", "values"]
  | "set" =>
    ["__and__", "__class_getitem__", "__contains__", "__doc__", "__iand__", "__ior__", "__isub__",
     "__iter__", "__ixor__", "__len__", "__or__", "__rand__", "__ror__", "__rsub__", "__rxor__",
     "__sub__", "__xor__", "add", "clear", "copy", "difference", "difference_update", "discard",
     "intersection", "intersection_update", "isdisjoint", "issubset", "issuperset", "pop", "remove",
     "symmetric_difference", "symmetric_difference_update", "union", "update"]
  | "frozenset" =>
    ["__and__", "__class_getitem__", "__contains__", "__doc__", "__iter__", "__len__", "__or__",
     "__rand__", "__ror__", "__rsub__", "__rxor__", "__sub__", "__xor__", "copy", "difference",
     "intersection", "isdisjoint", "issubset", "issuperset", "symmetric_difference", "union"]
  | "tuple" =>
    ["__add__", "__class_getitem__", "__contains__", "__doc__", "__getitem__", "__getnewargs__",
     "__iter__", "__len__", "__mul__", "__rmul__", "count", "index"]
  | "str" =>
    ["__add__", "__contains__", "__doc__", "__getitem__", "__getnewargs__", "__iter__", "__len__",
     "__mod__", "__mul__", "__rmod__", "__rmul__", "capitalize", "casefold", "center", "count",
     "encode", "endswith", "expandtabs", "find", "format", "format_map", "index", "isalnum",
     "isalpha", "isascii", "isdecimal", "isdigit", "isidentifier", "islower", "isnumeric",
     "isprintable", "isspace", "istitle", "isupper", "join", "ljust", "lower", "lstrip",
     "maketrans", "partition", "removeprefix", "removesuffix", "replace", "rfind", "rindex",
     "rjust", "rpartition", "rsplit", "rstrip", "split", "splitlines", "startswith", "strip",
     "swapcase", "title", "upper", "zfill"]
  | "bool" =>
    ["__abs__", "__add__", "__and__", "__bool__", "__ceil__", "__divmod__", "__doc__", "__float__",
     "__floor__", "__floordiv__", "__getnewargs__", "__index__", "__int__", "__invert__",
     "__lshift__", "__mod__", "__mul__", "__neg__", "__or__", "__pos__", "__pow__", "__radd__",
     "__rand__", "__rdivmod__", "__rfloordiv__", "__rlshift__", "__rmod__", "__rmul__", "__ror__",
     "__round__", "__rpow__", "__rrshift__", "__rshift__", "__rsub__", "__rtruediv__", "__rxor__",
     "__sub__", "__truediv__", "__trunc__", "__xor__", "as_integer_ratio", "bit_count",
     "bit_length", "conjugate", "from_bytes", "to_bytes"]
  | "NoneType" => ["__bool__", "__doc__"]
  | "method" | "builtin_function_or_method" | "method-wrapper" => ["__call__"]
  | _ => ["__doc__"]

/-- The kind by whose values a name of a value follows from it, if it does. -/
def derivingKind? (kind name : String) : Option String :=
  let known := match kind with
    | "bool" => ["denominator", "imag", "numerator", "real"]
    | "method" => ["__doc__"]
    | "builtin_function_or_method" =>
      ["__doc__", "__name__", "__qualname__", "__self__", "__text_signature__"]
    | "method-wrapper" =>
      ["__doc__", "__name__", "__objclass__", "__qualname__", "__text_signature__"]
    | _ => []
  if known.contains name then some (if kind = "bool" then "int" else kind) else none

def openNamesOf : String → List String
  | "builtin_function_or_method" => ["__module__"]
  | "DecoratorInfos" =>
    ["validators", "field_validators", "root_validators", "field_serializers",
     "model_serializers", "model_validators", "computed_fields"]
  | _ => []

def fixedNamesOf : String → List String
  | "method" => ["__func__", "__self__"]
  | "method-wrapper" => ["__self__"]
  | _ => []

def memberFault? (kind name given : String) : Option MemberFault :=
  if (openNamesOf kind).contains name then none
  else some (
    if name = "__class__" then .notAType given
    else if (fixedNamesOf kind).contains name then .fixed
    else if sharedNames.contains name || (sharedNamesOf kind).contains name then .shared kind name
    else match derivingKind? kind name with
      | some owner => .derived owner name
      | none => .absent kind name)

end GestureLexicon.Settings
