import Marshal.Declaration.Tree

/-!
# Lexemes of declarations

The terminals of the declaration grammar, the lexemes that instantiate them, and how each is found
at the front of a text. No word is reserved: which terminals are looked for is the business of the
reader. White space and comments separate lexemes and are skipped.
-/

namespace Marshal.Declaration
set_option autoImplicit false

inductive Terminal where
  | abstractWord
  | colon
  | comma
  | datatypeWord
  | dot
  | equal
  | functionWord
  | ghostWord
  | lbrace
  | less
  | lparen
  | moduleWord
  | more
  | name
  | rbrace
  | rparen
  | bar
deriving DecidableEq, Repr, Inhabited

namespace Terminal

/-- What a terminal is called when it is listed as expected. -/
def title : Terminal → String
  | .abstractWord => "ABSTRACT"
  | .colon => "COLON"
  | .comma => "COMMA"
  | .datatypeWord => "DATATYPE"
  | .dot => "DOT"
  | .equal => "EQUAL"
  | .functionWord => "FUNCTION_KIND"
  | .ghostWord => "GHOST"
  | .lbrace => "LBRACE"
  | .less => "LESSTHAN"
  | .lparen => "LPAR"
  | .moduleWord => "MODULE"
  | .more => "MORETHAN"
  | .name => "NAME"
  | .rbrace => "RBRACE"
  | .rparen => "RPAR"
  | .bar => "VBAR"

/-- Every terminal, in the alphabetical order of the titles. -/
def all : List Terminal :=
  [.abstractWord, .colon, .comma, .datatypeWord, .dot, .equal, .functionWord, .ghostWord, .lbrace,
    .less, .lparen, .moduleWord, .more, .name, .rbrace, .rparen, .bar]

/-- The given terminals, sorted and without repetitions. -/
def sorted (ts : List Terminal) : List Terminal := all.filter (ts.contains ·)

end Terminal

/-- A lexeme: a terminal with the choice it leaves open. -/
inductive Lexeme where
  | abstractWord
  | colon
  | comma
  | datatypeWord
  | dot
  | equal
  | functionWord (kind : FunctionKind)
  | ghostWord
  | lbrace
  | less
  | lparen
  | moduleWord
  | more
  | name (text : String)
  | rbrace
  | rparen
  | bar
deriving DecidableEq, Repr, Inhabited

namespace Lexeme

def terminal : Lexeme → Terminal
  | .abstractWord => .abstractWord
  | .colon => .colon
  | .comma => .comma
  | .datatypeWord => .datatypeWord
  | .dot => .dot
  | .equal => .equal
  | .functionWord _ => .functionWord
  | .ghostWord => .ghostWord
  | .lbrace => .lbrace
  | .less => .less
  | .lparen => .lparen
  | .moduleWord => .moduleWord
  | .more => .more
  | .name _ => .name
  | .rbrace => .rbrace
  | .rparen => .rparen
  | .bar => .bar

def chars : Lexeme → List Char
  | .abstractWord => "abstract".toList
  | .colon => [':']
  | .comma => [',']
  | .datatypeWord => "datatype".toList
  | .dot => ['.']
  | .equal => ['=']
  | .functionWord k => k.word.toList
  | .ghostWord => "ghost".toList
  | .lbrace => ['\x7b']
  | .less => ['<']
  | .lparen => ['(']
  | .moduleWord => "module".toList
  | .more => ['>']
  | .name s => s.toList
  | .rbrace => ['\x7d']
  | .rparen => [')']
  | .bar => ['|']

end Lexeme

def isLetter (c : Char) : Bool := ('a' ≤ c && c ≤ 'z') || ('A' ≤ c && c ≤ 'Z')

/-- A character that a name may begin with. -/
def isNameStart (c : Char) : Bool := isLetter c || c == '_'

/-- A character that a name may go on with. -/
def isNameChar (c : Char) : Bool :=
  isNameStart c || ('0' ≤ c && c ≤ '9') || c == '\'' || c == '?' || c == '#'

def isBlank (c : Char) : Bool := c == ' ' || c == '\t' || c == '\x0c' || c == '\r' || c == '\n'

/-- The rest of a text after a given beginning. -/
def afterWord? : List Char → List Char → Option (List Char)
  | [], cs => some cs
  | _ :: _, [] => none
  | w :: ws, c :: cs => if w = c then afterWord? ws cs else none

def Lexeme.match? (l : Lexeme) (cs : List Char) : Option (Lexeme × List Char) :=
  (afterWord? l.chars cs).map fun rest => (l, rest)

/-- The longest name at the front of a text. -/
def matchName? : List Char → Option (Lexeme × List Char)
  | [] => none
  | c :: cs =>
    if isNameStart c then
      some (.name (String.ofList (c :: cs.takeWhile isNameChar)), cs.dropWhile isNameChar)
    else none

def Terminal.match? : Terminal → List Char → Option (Lexeme × List Char)
  | .abstractWord => Lexeme.match? .abstractWord
  | .colon => Lexeme.match? .colon
  | .comma => Lexeme.match? .comma
  | .datatypeWord => Lexeme.match? .datatypeWord
  | .dot => Lexeme.match? .dot
  | .equal => Lexeme.match? .equal
  | .functionWord => fun cs =>
    match Lexeme.match? (.functionWord .function) cs with
    | some found => some found
    | none => Lexeme.match? (.functionWord .predicate) cs
  | .ghostWord => Lexeme.match? .ghostWord
  | .lbrace => Lexeme.match? .lbrace
  | .less => Lexeme.match? .less
  | .lparen => Lexeme.match? .lparen
  | .moduleWord => Lexeme.match? .moduleWord
  | .more => Lexeme.match? .more
  | .name => matchName?
  | .rbrace => Lexeme.match? .rbrace
  | .rparen => Lexeme.match? .rparen
  | .bar => Lexeme.match? .bar

/--
Whether a text begins with the word for ghosts and goes on as one longer name: a digit, a quote, a
question or a number sign cannot begin the name that would have to follow the word.
-/
def ghostIsName (cs : List Char) : Bool :=
  match afterWord? Lexeme.ghostWord.chars cs with
  | some (c :: _) => isNameChar c && !isNameStart c
  | _ => false

/--
The lexeme at the front of a text where the given terminals may stand. Only the word for ghosts and
a name can both match; then the word wins, unless the text goes on as one longer name.
-/
def nextLexeme? (expected : List Terminal) (cs : List Char) : Option (Lexeme × List Char) :=
  expected.findSome? fun t =>
    if t = .ghostWord && expected.contains .name && ghostIsName cs then none else t.match? cs

/-- The rest of a text after the nearest end of a block comment. -/
def afterBlock? : List Char → Option (List Char)
  | '*' :: '/' :: cs => some cs
  | _ :: cs => afterBlock? cs
  | [] => none

/-- The rest of a text that begins with white space or a comment. -/
def afterSkipped? : List Char → Option (List Char)
  | '/' :: '/' :: cs => some (cs.dropWhile (· != '\n'))
  | '/' :: '*' :: cs => afterBlock? cs
  | c :: cs => if isBlank c then some (cs.dropWhile isBlank) else none
  | [] => none

theorem afterWord?_length {ws cs rest : List Char} (h : afterWord? ws cs = some rest) :
    rest.length + ws.length = cs.length := by
  induction ws generalizing cs with
  | nil => simp_all [afterWord?]
  | cons w ws ih =>
    cases cs with
    | nil => simp [afterWord?] at h
    | cons c cs =>
      simp only [afterWord?] at h
      split at h
      · have := ih h
        simp only [List.length_cons]
        omega
      · contradiction

theorem Lexeme.match?_length (l : Lexeme) {l' : Lexeme} {cs rest : List Char}
    (hl : l.chars ≠ []) (h : l.match? cs = some (l', rest)) : rest.length < cs.length := by
  obtain ⟨r, hr, he⟩ := Option.map_eq_some_iff.1 h
  cases he
  have := afterWord?_length hr
  have := List.length_pos_iff.2 hl
  omega

theorem matchName?_length {cs rest : List Char} {l : Lexeme} (h : matchName? cs = some (l, rest)) :
    rest.length < cs.length := by
  cases cs with
  | nil => simp [matchName?] at h
  | cons c cs =>
    simp only [matchName?] at h
    split at h
    · cases h
      exact Nat.lt_succ_of_le (List.dropWhile_sublist isNameChar).length_le
    · contradiction

theorem Terminal.match?_length {t : Terminal} {cs rest : List Char} {l : Lexeme}
    (h : t.match? cs = some (l, rest)) : rest.length < cs.length := by
  cases t
  case name => exact matchName?_length h
  case functionWord =>
    simp only [Terminal.match?] at h
    split at h
    · rename_i hf
      cases h
      exact Lexeme.match?_length (.functionWord .function) (by decide) hf
    · exact Lexeme.match?_length (.functionWord .predicate) (by decide) h
  all_goals exact Lexeme.match?_length _ (by decide) h

theorem nextLexeme?_length {expected : List Terminal} {cs rest : List Char} {l : Lexeme}
    (h : nextLexeme? expected cs = some (l, rest)) : rest.length < cs.length := by
  obtain ⟨t, _, ht⟩ := List.exists_of_findSome?_eq_some h
  split at ht
  · contradiction
  · exact Terminal.match?_length ht

theorem afterBlock?_length {cs rest : List Char} (h : afterBlock? cs = some rest) :
    rest.length < cs.length := by
  induction cs with
  | nil => cases h
  | cons c cs ih =>
    unfold afterBlock? at h
    split at h
    · rename_i heq
      cases heq
      cases h
      simp only [List.length_cons]
      omega
    · rename_i heq
      cases heq
      exact Nat.lt_succ_of_lt (ih h)
    · cases h

theorem afterSkipped?_length {cs rest : List Char} (h : afterSkipped? cs = some rest) :
    rest.length < cs.length := by
  unfold afterSkipped? at h
  split at h
  · cases h
    have hrest := (List.dropWhile_sublist (l := ‹List Char›) (· != '\n')).length_le
    simp only [List.length_cons]
    omega
  · have := afterBlock?_length h
    simp only [List.length_cons]
    omega
  · split at h
    · cases h
      exact Nat.lt_succ_of_le (List.dropWhile_sublist isBlank).length_le
    · contradiction
  · contradiction

end Marshal.Declaration
