import Marshal.Code.Expr
import Marshal.Naming.Identifier
import Marshal.Naming.Mangling

/-!
# Members of the runtime

How generated code reaches the constructors, flags and fields of datatype values, and the functions
of a module.
-/

namespace Marshal.Naming
set_option autoImplicit false

open Code (Expr)

namespace Mangling

def constructorName (m : Mangling) (variant : String) : String := "create_" ++ m.apply variant

/-- The member that tells whether a value is a variant. -/
def variantFlag (m : Mangling) (variant : String) : String := "is_" ++ m.apply variant

def fieldAttribute (m : Mangling) (field : String) : String := "dtor_" ++ m.apply field

def constructor (m : Mangling) (moduleName typeName variant : String) : Expr :=
  .attr (.attr (.name moduleName) (sanitize typeName)) (m.constructorName variant)

def isVariant (m : Mangling) (value : Expr) (variant : String) : Expr :=
  .attr value (m.variantFlag variant)

def destructor (m : Mangling) (value : Expr) (field : String) : Expr :=
  .attr value (m.fieldAttribute field)

def function (m : Mangling) (moduleName name : String) : Expr :=
  .attr (.name moduleName) (m.apply name)

end Mangling

end Marshal.Naming
