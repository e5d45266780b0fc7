import Marshal.Declaration.Lexeme

/-!
# The grammar of declarations, as it is written down

Every declaration tree has one sequence of lexemes, and a text renders a list of modules if it lays
out their lexemes with white space and comments around them. Nothing here mentions reading: the
relation between renderings and what the reader accepts is the business of other modules.
-/

namespace Marshal.Declaration
set_option autoImplicit false

/-- One or more items with a separator between them; no items give nothing. -/
def chain (sep : Lexeme) : List (List Lexeme) → List Lexeme
  | [] => []
  | x :: xs => x ++ xs.flatMap (sep :: ·)

/-- The items so far, where one more has to follow. -/
def opened (sep : Lexeme) (xs : List (List Lexeme)) : List Lexeme :=
  if xs = [] then [] else chain sep xs ++ [sep]

/-- Items in angle brackets, which are left out if there are no items. -/
def angles (xs : List (List Lexeme)) : List Lexeme :=
  if xs = [] then [] else .less :: (chain .comma xs ++ [.more])

def parens (xs : List (List Lexeme)) : List Lexeme := .lparen :: (chain .comma xs ++ [.rparen])

def optional (b : Bool) (l : Lexeme) : List Lexeme := if b then [l] else []

def nameItems (ns : List String) : List (List Lexeme) := ns.map fun n => [.name n]

def DottedName.lexemes (n : DottedName) : List Lexeme := chain .dot (nameItems n.parts)

mutual
def TypeExpr.lexemes : TypeExpr → List Lexeme
  | .named n args => n.lexemes ++ angles (TypeExpr.lexemesEach args)
  | .tuple items => parens (TypeExpr.lexemesEach items)

def TypeExpr.lexemesEach : List TypeExpr → List (List Lexeme)
  | [] => []
  | t :: ts => t.lexemes :: TypeExpr.lexemesEach ts
end

def FieldDecl.lexemes (f : FieldDecl) : List Lexeme :=
  optional f.isGhost .ghostWord ++ .name f.name :: .colon :: f.type.lexemes

def VariantDecl.lexemes (v : VariantDecl) : List Lexeme :=
  .name v.name :: (v.fields.elim [] fun fs => parens (fs.map (·.lexemes)))

def DatatypeDecl.lexemes (d : DatatypeDecl) : List Lexeme :=
  .datatypeWord :: .name d.name :: (angles (nameItems d.typeParams) ++
    .equal :: (optional d.leadingBar .bar ++ chain .bar (d.variants.map (·.lexemes))))

def FunctionDecl.lexemes (f : FunctionDecl) : List Lexeme :=
  optional f.isGhost .ghostWord ++ .functionWord f.kind :: .name f.name ::
    (angles (nameItems f.typeParams) ++ (parens (f.params.map (·.lexemes)) ++
      f.result.elim [] fun t => .colon :: t.lexemes))

def Member.lexemes : Member → List Lexeme
  | .datatype d => d.lexemes
  | .function f => f.lexemes

def ModuleDecl.lexemes (m : ModuleDecl) : List Lexeme :=
  optional m.isAbstract .abstractWord ++ .moduleWord :: (m.name.lexemes ++
    .lbrace :: (m.members.flatMap (·.lexemes) ++ [.rbrace]))

def IsName (s : String) : Prop :=
  ∃ c cs, s.toList = c :: cs ∧ isNameStart c ∧ ∀ d ∈ cs, isNameChar d

/-- A name that is the word for ghosts with another name directly behind it. -/
def HidesGhost (s : String) : Prop :=
  ∃ c cs, s.toList = Lexeme.ghostWord.chars ++ c :: cs ∧ isNameStart c

def DottedName.Formed (n : DottedName) : Prop := n.parts ≠ [] ∧ ∀ p ∈ n.parts, IsName p

mutual
def TypeExpr.Formed : TypeExpr → Prop
  | .named n args => n.Formed ∧ TypeExpr.FormedEach args
  | .tuple items => TypeExpr.FormedEach items

def TypeExpr.FormedEach : List TypeExpr → Prop
  | [] => True
  | t :: ts => t.Formed ∧ TypeExpr.FormedEach ts
end

/-- The name of a field hides no ghost: such a text stands for the ghost field of the rest. -/
def FieldDecl.Formed (f : FieldDecl) : Prop :=
  IsName f.name ∧ (f.isGhost = false → ¬ HidesGhost f.name) ∧ f.type.Formed

def VariantDecl.Formed (v : VariantDecl) : Prop := IsName v.name ∧ ∀ f ∈ v.fieldList, f.Formed

def DatatypeDecl.Formed (d : DatatypeDecl) : Prop :=
  IsName d.name ∧ (∀ p ∈ d.typeParams, IsName p) ∧ d.variants ≠ [] ∧ ∀ v ∈ d.variants, v.Formed

def FunctionDecl.Formed (f : FunctionDecl) : Prop :=
  IsName f.name ∧ (∀ p ∈ f.typeParams, IsName p) ∧ (∀ p ∈ f.params, p.Formed) ∧
    ∀ t ∈ f.result, t.Formed

def Member.Formed : Member → Prop
  | .datatype d => d.Formed
  | .function f => f.Formed

def ModuleDecl.Formed (m : ModuleDecl) : Prop := m.name.Formed ∧ ∀ x ∈ m.members, x.Formed

/-- Whether a text begins with a character that would make a name in front of it longer. -/
def extendsName : List Char → Bool
  | [] => false
  | c :: _ => isNameChar c

/--
A text lays out a list of lexemes: white space and comments stand before, between and behind them.
A line comment ends with its line or with the text, a block comment at the nearest end mark. What
follows a name directly must not make it longer; every stretch to skip will do as a separator.
-/
inductive Laid : List Lexeme → List Char → Prop where
  | done : Laid [] []
  | blank {ls : List Lexeme} {c : Char} {cs : List Char} :
      isBlank c → Laid ls cs → Laid ls (c :: cs)
  | line {ls : List Lexeme} {body cs : List Char} :
      '\n' ∉ body → Laid ls cs → Laid ls ('/' :: '/' :: (body ++ '\n' :: cs))
  | lastLine {body : List Char} : '\n' ∉ body → Laid [] ('/' :: '/' :: body)
  | block {ls : List Lexeme} {body cs : List Char} :
      ¬ ['*', '/'] <:+: body → Laid ls cs → Laid ls ('/' :: '*' :: (body ++ '*' :: '/' :: cs))
  | lexeme {l : Lexeme} {ls : List Lexeme} {cs : List Char} :
      (l.terminal = .name → extendsName cs = false) → Laid ls cs → Laid (l :: ls) (l.chars ++ cs)

def Renders (ms : List ModuleDecl) (text : List Char) : Prop :=
  (∀ m ∈ ms, m.Formed) ∧ Laid (ms.flatMap (·.lexemes)) text

end Marshal.Declaration
