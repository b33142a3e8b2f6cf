import CallAtlas.Table
import CallAtlas.Text.Basic

/-!
Functions that every Elixir module can call without naming their module.
-/

namespace CallAtlas.Imports

/-- Operators, functions and macros of `Kernel`. -/
def kernel : List String := [
  "+", "-", "*", "/", "==", "!=", "===", "!==", "<", ">", "<=", ">=", "&&", "||", "!", "and",
  "or", "not", "<>", "++", "--", "..", "in", "=~", "|>", "@", "abs", "apply", "binary_part",
  "bit_size", "byte_size", "ceil", "dbg", "div", "elem", "exit", "floor", "get_in", "hd", "if",
  "inspect", "is_atom", "is_binary", "is_bitstring", "is_boolean", "is_float", "is_function",
  "is_integer", "is_list", "is_map", "is_map_key", "is_nil", "is_number", "is_pid", "is_tuple",
  "length", "make_ref", "map_size", "match?", "max", "min", "put_elem", "put_in", "raise", "rem",
  "reraise", "round", "self", "send", "spawn", "spawn_link", "struct", "tap", "then", "throw",
  "tl", "to_charlist", "to_string", "trunc", "tuple_size", "unless", "update_in"]

/-- Forms that the compiler itself provides. -/
def specialForms : List String := [
  "=", "^", "::", "case", "cond", "for", "receive", "try", "with", "quote", "unquote", "import",
  "require", "alias", "super"]

/-- The functions that a module provides, each with the module. -/
def providedBy (module : Text) (names : List String) : List (Text × Text) :=
  names.map fun name => (Text.plain name, module)

/-- The module of each function that needs no qualifier. -/
def standard : Table Text Text :=
  .ofList (providedBy "Kernel" kernel ++ providedBy "Kernel.SpecialForms" specialForms)

end CallAtlas.Imports
