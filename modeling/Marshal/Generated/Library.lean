import Marshal.Text.Split

/-!
# The runtime library

The files of the library that generated modules run on, as they are written next to them. Its
behaviour is what `Marshal.Value` defines.
-/

namespace Marshal.Generated.Library
set_option autoImplicit false

/-- The module that offers the library, and finds tuple constructors by their names. -/
def entryLines : List String :=
  ["\"\"\"Typed-value runtime for code generated by adtjson.",
    "",
    "Tuple constructors are resolved on attribute access: `Tuple2(a, b)`,",
    "`Tuple3(a, b, c)` and so on.",
    "\"\"\"",
    "",
    "from .datatypes import Datatype as Datatype",
    "from .datatypes import datatype as datatype",
    "from .values import Map as Map",
    "from .values import Seq as Seq",
    "from .values import Set as Set",
    "from .values import UnknownVariantError as UnknownVariantError",
    "from .values import tuple_constructor",
    "",
    "",
    "def __getattr__(name: str):",
    "    suffix = name.removeprefix(\"Tuple\")",
    "    if suffix != name and suffix.isdigit():",
    "        return tuple_constructor(int(suffix))",
    "    raise AttributeError(f\"module \x7b__name__!r\x7d has no attribute \x7bname!r\x7d\")"]

def valuesLines : List String :=
  ["\"\"\"Immutable collection values used by generated conversion code.\"\"\"",
    "",
    "from collections.abc import Callable, Hashable, Iterable, Iterator",
    "from typing import Any, Self",
    "",
    "",
    "class UnknownVariantError(ValueError):",
    "    \"\"\"Raised by generated code when a value matches no variant of its type.\"\"\"",
    "",
    "    def __init__(self, type_name: str, value: Any):",
    "        self.type_name = type_name",
    "        self.value = value",
    "        super().__init__(f\"Unknown \x7btype_name\x7d variant: \x7bvalue!r\x7d\")",
    "",
    "",
    "class Seq:",
    "    \"\"\"An immutable sequence. Strings are sequences of characters.\"\"\"",
    "",
    "    __slots__ = (\"_items\", \"is_string\")",
    "",
    "    def __init__(self, items: Iterable[Any] = (), *, is_string: bool = False):",
    "        self._items = tuple(items)",
    "        self.is_string = is_string",
    "",
    "    @classmethod",
    "    def from_string(cls, text: str | None) -> Self:",
    "        return cls(text or \"\", is_string=True)",
    "",
    "    @property",
    "    def Elements(self) -> tuple[Any, ...]:",
    "        return self._items",
    "",
    "    def VerbatimString(self, asliteral: bool) -> str:",
    "        \"\"\"Join the characters back into a string, quoted when `asliteral`.\"\"\"",
    "        text = \"\".join(self._items)",
    "        return repr(text) if asliteral else text",
    "",
    "    def __iter__(self) -> Iterator[Any]:",
    "        return iter(self._items)",
    "",
    "    def __len__(self) -> int:",
    "        return len(self._items)",
    "",
    "    def __getitem__(self, index):",
    "        if isinstance(index, slice):",
    "            return Seq(self._items[index], is_string=self.is_string)",
    "        return self._items[index]",
    "",
    "    def __eq__(self, other: object) -> bool:",
    "        if isinstance(other, Seq):",
    "            return self._items == other._items",
    "        return NotImplemented",
    "",
    "    def __hash__(self) -> int:",
    "        return hash(self._items)",
    "",
    "    def __repr__(self) -> str:",
    "        if self.is_string:",
    "            return f\"Seq.from_string(\x7bself.VerbatimString(True)\x7d)\"",
    "        return f\"Seq(\x7blist(self._items)!r\x7d)\"",
    "",
    "",
    "class Set:",
    "    \"\"\"An immutable, unordered set exposing its members as `Elements`.\"\"\"",
    "",
    "    __slots__ = (\"_items\",)",
    "",
    "    def __init__(self, items: Iterable[Hashable] = ()):",
    "        self._items = frozenset(items)",
    "",
    "    @property",
    "    def Elements(self) -> frozenset:",
    "        return self._items",
    "",
    "    def contains(self, item: Hashable) -> bool:",
    "        return item in self._items",
    "",
    "    def __iter__(self) -> Iterator[Any]:",
    "        return iter(self._items)",
    "",
    "    def __len__(self) -> int:",
    "        return len(self._items)",
    "",
    "    def __contains__(self, item: object) -> bool:",
    "        return item in self._items",
    "",
    "    def __eq__(self, other: object) -> bool:",
    "        if isinstance(other, Set):",
    "            return self._items == other._items",
    "        return NotImplemented",
    "",
    "    def __hash__(self) -> int:",
    "        return hash(self._items)",
    "",
    "    def __repr__(self) -> str:",
    "        return f\"Set(\x7bset(self._items)!r\x7d)\"",
    "",
    "",
    "class Map:",
    "    \"\"\"An immutable mapping, grown one entry at a time with `update`.\"\"\"",
    "",
    "    __slots__ = (\"_items\",)",
    "",
    "    Empty: \"Map\"",
    "",
    "    def __init__(self, items: dict | None = None):",
    "        self._items = dict(items or \x7b\x7d)",
    "",
    "    def update(self, key: Hashable, value: Any) -> \"Map\":",
    "        \"\"\"Return a new map with `key` bound to `value`.\"\"\"",
    "        items = dict(self._items)",
    "        items[key] = value",
    "        return Map(items)",
    "",
    "    @property",
    "    def Keys(self) -> Set:",
    "        return Set(self._items.keys())",
    "",
    "    @property",
    "    def Values(self) -> list[Any]:",
    "        return list(self._items.values())",
    "",
    "    @property",
    "    def Items(self) -> list[tuple[Any, Any]]:",
    "        return list(self._items.items())",
    "",
    "    def get(self, key: Hashable) -> Any:",
    "        return self._items[key]",
    "",
    "    def contains(self, key: Hashable) -> bool:",
    "        return key in self._items",
    "",
    "    def __len__(self) -> int:",
    "        return len(self._items)",
    "",
    "    def __contains__(self, key: object) -> bool:",
    "        return key in self._items",
    "",
    "    def __eq__(self, other: object) -> bool:",
    "        if isinstance(other, Map):",
    "            return self._items == other._items",
    "        return NotImplemented",
    "",
    "    def __hash__(self) -> int:",
    "        return hash(frozenset(self._items.items()))",
    "",
    "    def __repr__(self) -> str:",
    "        return f\"Map(\x7bself._items!r\x7d)\"",
    "",
    "",
    "Map.Empty = Map()",
    "",
    "",
    "def tuple_constructor(arity: int) -> Callable[..., tuple]:",
    "    \"\"\"Return the constructor for tuples of the given arity.\"\"\"",
    "",
    "    def construct(*items: Any) -> tuple:",
    "        if len(items) != arity:",
    "            raise TypeError(f\"Tuple\x7barity\x7d takes \x7barity\x7d items, got \x7blen(items)\x7d\")",
    "        return tuple(items)",
    "",
    "    construct.__name__ = f\"Tuple\x7barity\x7d\"",
    "    return construct"]

def datatypesLines : List String :=
  ["\"\"\"Tagged-union values with the constructor and accessor names generated code uses.",
    "",
    "A datatype class exposes, for every variant `V` and field `f`:",
    "",
    "* `create_V(...)` building the variant from positional field values,",
    "* `is_V`, true when a value is that variant,",
    "* `dtor_f`, the value of field `f` (for variants that declare it).",
    "\"\"\"",
    "",
    "from collections.abc import Callable, Mapping, Sequence",
    "from typing import Any",
    "",
    "",
    "class Datatype:",
    "    \"\"\"Base class of every class built by `datatype`.\"\"\"",
    "",
    "    __slots__ = (\"_variant\", \"_values\")",
    "",
    "    _type_name = \"Datatype\"",
    "    _variants: dict[str, tuple[str, ...]] = \x7b\x7d",
    "",
    "    def __init__(self, variant: str, values: tuple[Any, ...]):",
    "        fields = self._variants[variant]",
    "        if len(values) != len(fields):",
    "            raise TypeError(",
    "                f\"\x7bself._type_name\x7d.\x7bvariant\x7d takes \x7blen(fields)\x7d values, got \x7blen(values)\x7d\"",
    "            )",
    "        self._variant = variant",
    "        self._values = values",
    "",
    "    @property",
    "    def variant(self) -> str:",
    "        return self._variant",
    "",
    "    def __eq__(self, other: object) -> bool:",
    "        if type(other) is not type(self):",
    "            return NotImplemented",
    "        return self._variant == other._variant and self._values == other._values",
    "",
    "    def __hash__(self) -> int:",
    "        return hash((self._type_name, self._variant, self._values))",
    "",
    "    def __repr__(self) -> str:",
    "        fields = self._variants.get(self._variant, ())",
    "        args = \", \".join(f\"\x7bname\x7d=\x7bvalue!r\x7d\" for name, value in zip(fields, self._values))",
    "        return f\"\x7bself._type_name\x7d.\x7bself._variant\x7d(\x7bargs\x7d)\"",
    "",
    "",
    "def _constructor(variant: str) -> classmethod:",
    "    def create(cls, *values):",
    "        return cls(variant, values)",
    "",
    "    return classmethod(create)",
    "",
    "",
    "def _flag(variant: str) -> property:",
    "    return property(lambda self: self._variant == variant)",
    "",
    "",
    "def _destructor(field_name: str) -> property:",
    "    def get(self):",
    "        fields = self._variants[self._variant]",
    "        if field_name not in fields:",
    "            raise AttributeError(",
    "                f\"\x7bself._type_name\x7d.\x7bself._variant\x7d has no field '\x7bfield_name\x7d'\"",
    "            )",
    "        return self._values[fields.index(field_name)]",
    "",
    "    return property(get)",
    "",
    "",
    "def datatype(",
    "    name: str,",
    "    variants: Mapping[str, Sequence[str]],",
    "    mangle: Callable[[str], str] | None = None,",
    ") -> type[Datatype]:",
    "    \"\"\"Build a datatype class.",
    "",
    "    Args:",
    "        name: The datatype name, used in reprs and errors.",
    "        variants: Variant names mapped to their field names, in declaration order.",
    "        mangle: Applied to variant and field names when naming members, so the",
    "            class matches a generator configured with the same mangling.",
    "",
    "    Returns:",
    "        A new `Datatype` subclass.",
    "    \"\"\"",
    "    mangle = mangle or (lambda s: s)",
    "    namespace: dict[str, Any] = \x7b",
    "        \"__slots__\": (),",
    "        \"_type_name\": name,",
    "        \"_variants\": \x7bvariant: tuple(fields) for variant, fields in variants.items()\x7d,",
    "    \x7d",
    "",
    "    for variant, fields in variants.items():",
    "        namespace[f\"create_\x7bmangle(variant)\x7d\"] = _constructor(variant)",
    "        namespace[f\"is_\x7bmangle(variant)\x7d\"] = _flag(variant)",
    "        for field_name in fields:",
    "            namespace.setdefault(f\"dtor_\x7bmangle(field_name)\x7d\", _destructor(field_name))",
    "",
    "    return type(name, (Datatype,), namespace)"]

def fileText (lines : List String) : String := Text.joinLines lines ++ "\n"

/-- The files of the library, in the order in which they are written. -/
def files : List (String × String) :=
  [("__init__.py", fileText entryLines), ("values.py", fileText valuesLines),
    ("datatypes.py", fileText datatypesLines)]

end Marshal.Generated.Library
