import Marshal.Declaration.Lexeme

/-!
# Readings of declarations

A reading is what has been understood of a text so far: the declarations that are complete and the
ones that are still open. Each reading says which terminals may come next, and a lexeme of one of
them takes it to the next reading.
-/

namespace Marshal.Declaration
set_option autoImplicit false

/-- A module whose closing brace has not been read. -/
structure OpenModule where
  before : List ModuleDecl
  isAbstract : Bool
  name : DottedName
  members : List Member
deriving Repr, Inhabited

/-- A datatype of which some variants have been read. -/
structure OpenDatatype where
  owner : OpenModule
  name : String
  typeParams : List String
  leadingBar : Bool
  variants : List VariantDecl
deriving Repr, Inhabited

structure FunctionHead where
  owner : OpenModule
  isGhost : Bool
  kind : FunctionKind
  name : String
deriving Repr, Inhabited

/-- Whose type parameters are being read. -/
inductive Head where
  | datatype (owner : OpenModule) (name : String)
  | function (f : FunctionHead)
deriving Repr, Inhabited

inductive FieldOwner where
  | variant (d : OpenDatatype) (name : String)
  | function (f : FunctionHead) (typeParams : List String)
deriving Repr, Inhabited

inductive TypeSlot where
  | field (o : FieldOwner) (done : List FieldDecl) (isGhost : Bool) (name : String)
  | result (f : FunctionHead) (typeParams : List String) (params : List FieldDecl)
deriving Repr, Inhabited

/-- A type that is open around the one being read. -/
inductive TypeFrame where
  | args (name : DottedName) (done : List TypeExpr)
  | items (done : List TypeExpr)
deriving Repr, Inhabited

/-- What has been understood of a text. -/
inductive Reading where
  /-- Between modules. -/
  | top (done : List ModuleDecl)
  /-- After the word for abstract modules. -/
  | abstractWord (done : List ModuleDecl)
  /-- Where a component of a module name has to follow. -/
  | modulePart (done : List ModuleDecl) (isAbstract : Bool) (parts : List String)
  /-- After a component of a module name. -/
  | moduleName (done : List ModuleDecl) (isAbstract : Bool) (parts : List String)
  /-- Between the members of a module. -/
  | members (m : OpenModule)
  /-- After the word for ghost functions. -/
  | ghostWord (m : OpenModule)
  /-- After the word for datatypes. -/
  | datatypeWord (m : OpenModule)
  /-- After the word for functions. -/
  | functionWord (m : OpenModule) (isGhost : Bool) (kind : FunctionKind)
  /-- After the name of a datatype or function. -/
  | headName (h : Head)
  /-- Where a type parameter has to follow. -/
  | typeParam (h : Head) (done : List String)
  /-- After a type parameter. -/
  | typeParamName (h : Head) (done : List String)
  /-- After all type parameters. -/
  | typeParamsEnd (h : Head) (typeParams : List String)
  /-- After the equality sign of a datatype. -/
  | equal (m : OpenModule) (name : String) (typeParams : List String)
  /-- Where a variant has to follow. -/
  | variant (d : OpenDatatype)
  /-- After the name of a variant. -/
  | variantName (d : OpenDatatype) (name : String)
  /-- After a variant with parentheses. -/
  | variantEnd (d : OpenDatatype)
  /-- After the opening parenthesis of a field list. -/
  | fieldsStart (o : FieldOwner)
  /-- Where a field has to follow. -/
  | field (o : FieldOwner) (done : List FieldDecl)
  /-- After the word for ghosts, which may yet turn out to be the name of the field. -/
  | fieldGhost (o : FieldOwner) (done : List FieldDecl)
  /-- After the name of a field. -/
  | fieldName (o : FieldOwner) (done : List FieldDecl) (isGhost : Bool) (name : String)
  /-- After the closing parenthesis of a function's parameters. -/
  | paramsEnd (f : FunctionHead) (typeParams : List String) (params : List FieldDecl)
  /-- Where a type has to follow. -/
  | typeStart (s : TypeSlot) (frames : List TypeFrame)
  /-- After the opening parenthesis of a type. -/
  | tupleStart (s : TypeSlot) (frames : List TypeFrame)
  /-- Where a component of a type name has to follow. -/
  | typePart (s : TypeSlot) (frames : List TypeFrame) (parts : List String)
  /-- After a component of a type name. -/
  | typeName (s : TypeSlot) (frames : List TypeFrame) (parts : List String)
  /-- After a type that cannot be extended. -/
  | typeEnd (s : TypeSlot) (frames : List TypeFrame) (type : TypeExpr)
deriving Repr, Inhabited

def memberTerminals : List Terminal := [.datatypeWord, .functionWord, .ghostWord, .rbrace]

def closeTerminals : TypeSlot → List TypeFrame → List Terminal
  | _, .args _ _ :: _ => [.comma, .more]
  | _, .items _ :: _ => [.comma, .rparen]
  | .field .., [] => [.comma, .rparen]
  | .result .., [] => memberTerminals

def Reading.expected : Reading → List Terminal
  | .top _ => [.abstractWord, .moduleWord]
  | .abstractWord _ => [.moduleWord]
  | .modulePart .. => [.name]
  | .moduleName .. => [.dot, .lbrace]
  | .members _ => memberTerminals
  | .ghostWord _ => [.functionWord]
  | .datatypeWord _ => [.name]
  | .functionWord .. => [.name]
  | .headName (.datatype ..) => [.equal, .less]
  | .headName (.function _) => [.less, .lparen]
  | .typeParam .. => [.name]
  | .typeParamName .. => [.comma, .more]
  | .typeParamsEnd (.datatype ..) _ => [.equal]
  | .typeParamsEnd (.function _) _ => [.lparen]
  | .equal .. => [.name, .bar]
  | .variant _ => [.name]
  | .variantName .. => [.lparen, .bar] ++ memberTerminals
  | .variantEnd _ => .bar :: memberTerminals
  | .fieldsStart _ => [.ghostWord, .name, .rparen]
  | .field .. => [.ghostWord, .name]
  | .fieldGhost .. => [.colon, .name]
  | .fieldName .. => [.colon]
  | .paramsEnd .. => .colon :: memberTerminals
  | .typeStart .. => [.lparen, .name]
  | .tupleStart .. => [.lparen, .name, .rparen]
  | .typePart .. => [.name]
  | .typeName s fs _ => [.dot, .less] ++ closeTerminals s fs
  | .typeEnd s fs _ => closeTerminals s fs

namespace OpenModule

def add (m : OpenModule) (x : Member) : OpenModule := { m with members := m.members ++ [x] }

def close (m : OpenModule) : ModuleDecl := ⟨m.isAbstract, m.name, m.members⟩

def step (m : OpenModule) : Lexeme → Option Reading
  | .datatypeWord => some (.datatypeWord m)
  | .functionWord k => some (.functionWord m false k)
  | .ghostWord => some (.ghostWord m)
  | .rbrace => some (.top (m.before ++ [m.close]))
  | _ => none

end OpenModule

namespace OpenDatatype

def add (d : OpenDatatype) (v : VariantDecl) : OpenDatatype :=
  { d with variants := d.variants ++ [v] }

def close (d : OpenDatatype) : OpenModule :=
  d.owner.add (.datatype ⟨d.name, d.typeParams, d.leadingBar, d.variants⟩)

def step (d : OpenDatatype) : Lexeme → Option Reading
  | .bar => some (.variant d)
  | l => d.close.step l

end OpenDatatype

def FunctionHead.close (f : FunctionHead) (typeParams : List String) (params : List FieldDecl)
    (result : Option TypeExpr) : OpenModule :=
  f.owner.add (.function ⟨f.isGhost, f.kind, f.name, typeParams, params, result⟩)

def FieldOwner.close : FieldOwner → List FieldDecl → Reading
  | .variant d name, fields => .variantEnd (d.add ⟨name, some fields⟩)
  | .function f typeParams, params => .paramsEnd f typeParams params

/-- The step from after a complete type. -/
def closeType : TypeSlot → List TypeFrame → TypeExpr → Lexeme → Option Reading
  | s, .args n done :: fs, t, .comma => some (.typeStart s (.args n (done ++ [t]) :: fs))
  | s, .args n done :: fs, t, .more => some (.typeEnd s fs (.named n (done ++ [t])))
  | s, .items done :: fs, t, .comma => some (.typeStart s (.items (done ++ [t]) :: fs))
  | s, .items done :: fs, t, .rparen => some (.typeEnd s fs (.tuple (done ++ [t])))
  | .field o done g n, [], t, .comma => some (.field o (done ++ [⟨g, n, t⟩]))
  | .field o done g n, [], t, .rparen => some (o.close (done ++ [⟨g, n, t⟩]))
  | .result f tps ps, [], t, l => (f.close tps ps (some t)).step l
  | _, _, _, _ => none

/-- The step from where a field has to follow. -/
def stepField (o : FieldOwner) (done : List FieldDecl) : Lexeme → Option Reading
  | .ghostWord => some (.fieldGhost o done)
  | .name n => some (.fieldName o done false n)
  | _ => none

/-- The step from where a type has to follow. -/
def stepType (s : TypeSlot) (frames : List TypeFrame) : Lexeme → Option Reading
  | .lparen => some (.tupleStart s frames)
  | .name n => some (.typeName s frames [n])
  | _ => none

/-- The reading after one more lexeme; there is none if the lexeme is not expected. -/
def Reading.step : Reading → Lexeme → Option Reading
  | .top ms, .abstractWord => some (.abstractWord ms)
  | .top ms, .moduleWord => some (.modulePart ms false [])
  | .abstractWord ms, .moduleWord => some (.modulePart ms true [])
  | .modulePart ms a ps, .name n => some (.moduleName ms a (ps ++ [n]))
  | .moduleName ms a ps, .dot => some (.modulePart ms a ps)
  | .moduleName ms a ps, .lbrace => some (.members ⟨ms, a, ⟨ps⟩, []⟩)
  | .members m, l => m.step l
  | .ghostWord m, .functionWord k => some (.functionWord m true k)
  | .datatypeWord m, .name n => some (.headName (.datatype m n))
  | .functionWord m g k, .name n => some (.headName (.function ⟨m, g, k, n⟩))
  | .headName h, .less => some (.typeParam h [])
  | .headName (.datatype m n), .equal => some (.equal m n [])
  | .headName (.function f), .lparen => some (.fieldsStart (.function f []))
  | .typeParam h ps, .name n => some (.typeParamName h (ps ++ [n]))
  | .typeParamName h ps, .comma => some (.typeParam h ps)
  | .typeParamName h ps, .more => some (.typeParamsEnd h ps)
  | .typeParamsEnd (.datatype m n) ps, .equal => some (.equal m n ps)
  | .typeParamsEnd (.function f) ps, .lparen => some (.fieldsStart (.function f ps))
  | .equal m n ps, .bar => some (.variant ⟨m, n, ps, true, []⟩)
  | .equal m n ps, .name v => some (.variantName ⟨m, n, ps, false, []⟩ v)
  | .variant d, .name v => some (.variantName d v)
  | .variantName d v, .lparen => some (.fieldsStart (.variant d v))
  | .variantName d v, l => (d.add ⟨v, none⟩).step l
  | .variantEnd d, l => d.step l
  | .fieldsStart o, .rparen => some (o.close [])
  | .fieldsStart o, l => stepField o [] l
  | .field o done, l => stepField o done l
  | .fieldGhost o done, .name n => some (.fieldName o done true n)
  | .fieldGhost o done, .colon => some (.typeStart (.field o done false "ghost") [])
  | .fieldName o done g n, .colon => some (.typeStart (.field o done g n) [])
  | .paramsEnd f tps ps, .colon => some (.typeStart (.result f tps ps) [])
  | .paramsEnd f tps ps, l => (f.close tps ps none).step l
  | .typeStart s fs, l => stepType s fs l
  | .tupleStart s fs, .rparen => some (.typeEnd s fs (.tuple []))
  | .tupleStart s fs, l => stepType s (.items [] :: fs) l
  | .typePart s fs ps, .name n => some (.typeName s fs (ps ++ [n]))
  | .typeName s fs ps, .dot => some (.typePart s fs ps)
  | .typeName s fs ps, .less => some (.typeStart s (.args ⟨ps⟩ [] :: fs))
  | .typeName s fs ps, l => closeType s fs (.named ⟨ps⟩ []) l
  | .typeEnd s fs t, l => closeType s fs t l
  | _, _ => none

/-- The declarations read, if nothing is left open. -/
def Reading.complete? : Reading → Option (List ModuleDecl)
  | .top ms => some ms
  | _ => none

end Marshal.Declaration
