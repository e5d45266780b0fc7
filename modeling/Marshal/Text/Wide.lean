import Marshal.Text.Literal

/-!
# Texts with broken pairs

A text can hold half of a surrogate pair, which is no character. Such a text is kept as the
characters in front of the first half, that half, and the code points behind it; it has no bytes.
A text that is printed elsewhere than on a terminal loses its control sequences.
-/

namespace Marshal.Text
set_option autoImplicit false

/-- A text in which halves of pairs can stand. -/
inductive Wide where
  | text (s : String)
  /-- The first half of a pair is at `half` among all halves. -/
  | broken (before : String) (half : Fin 0x800) (rest : List Nat)
deriving DecidableEq, Repr, Inhabited

instance : Coe String Wide := ⟨.text⟩

/-- Whether a code point is half of a pair. -/
def isHalf (point : Nat) : Bool := 0xd800 ≤ point && point < 0xe000

def pointsOf (s : String) : List Nat := s.toList.map Char.toNat

/-- The string of code points without halves of pairs. -/
def ofWhole (points : List Nat) : String := String.ofList (points.map Char.ofNat)

namespace Wide

def points : Wide → List Nat
  | .text s => pointsOf s
  | .broken before half rest => pointsOf before ++ (0xd800 + half.val) :: rest

/-- The text of code points, cut at the first half. -/
def ofPoints (points : List Nat) : Wide :=
  match points.dropWhile (!isHalf ·) with
  | [] => .text (ofWhole points)
  | half :: rest => .broken (ofWhole (points.takeWhile (!isHalf ·))) (.ofNat _ (half - 0xd800)) rest

def literalPoint (quote : Char) (point : Nat) : List Char :=
  if isHalf point then '\\' :: 'u' :: hexDigits 4 point else literalChar quote (Char.ofNat point)

def literal (w : Wide) : String :=
  let quote := literalQuote ((w.points.filter (!isHalf ·)).map Char.ofNat)
  String.ofList (quote :: (w.points.flatMap (literalPoint quote) ++ [quote]))

def quotePoint (point : Nat) : List Char :=
  if isHalf point then unitEscape point else quoteChar (Char.ofNat point)

def quoted : Wide → String
  | .text s => Text.quoted s
  | .broken before half rest =>
    String.ofList ('"' :: ((broken before half rest).points.flatMap quotePoint ++ ['"']))

end Wide

/-- A run of halves, which no bytes stand for: the first of them, its position, and their number. -/
structure EncodeFault where
  first : Nat
  start : Nat
  length : Nat
deriving DecidableEq, Repr, Inhabited

def EncodeFault.message (f : EncodeFault) : String :=
  let place :=
    if f.length = 1 then
      " '\\u" ++ String.ofList (hexDigits 4 f.first) ++ "' in position " ++ toString f.start
    else "s in position " ++ toString f.start ++ "-" ++ toString (f.start + f.length - 1)
  "'utf-8' codec can't encode character" ++ place ++ ": surrogates not allowed"

def encodeUtf8 (s : String) : List Nat := s.toUTF8.toList.map UInt8.toNat

/-- Why a text has no bytes, if it has none. -/
def Wide.fault? : Wide → Option EncodeFault
  | .text _ => none
  | .broken before half rest =>
    some ⟨0xd800 + half.val, before.length, (rest.takeWhile isHalf).length + 1⟩

/-- The bytes of a text; a broken one has none. -/
def Wide.bytes : Wide → List Nat
  | .text s => encodeUtf8 s
  | .broken .. => []

/-- The character that control sequences begin with. -/
def escapePoint : Nat := 0x1b

/-- Digits, semicolons and question marks stand inside control sequences. -/
def isParameter (point : Nat) : Bool := (0x30 ≤ point && point ≤ 0x39) || point = 0x3b || point = 0x3f

/-- Control sequences end with an ASCII letter. -/
def isFinal (point : Nat) : Bool :=
  (0x41 ≤ point && point ≤ 0x5a) || (0x61 ≤ point && point ≤ 0x7a)

/--
Code points without control sequences. What may be the beginning of one is held back until its end
is found or something else follows.
-/
def dropSequences (held : List Nat) : List Nat → List Nat
  | [] => held
  | p :: ps =>
    if p = escapePoint then held ++ dropSequences [p] ps
    else
      match held with
      | [] => p :: dropSequences [] ps
      | [_] => if p = 0x5b then dropSequences (held ++ [p]) ps else held ++ p :: dropSequences [] ps
      | _ =>
        if isParameter p then dropSequences (held ++ [p]) ps
        else if isFinal p then dropSequences [] ps
        else held ++ p :: dropSequences [] ps

def Wide.withoutSequences (w : Wide) : Wide := .ofPoints (dropSequences [] w.points)

theorem dropSequences_of_not_mem {ps : List Nat} (h : escapePoint ∉ ps) :
    dropSequences [] ps = ps := by
  induction ps with
  | nil => rfl
  | cons p ps ih =>
    have hp : p ≠ escapePoint := fun heq => h (heq ▸ List.mem_cons_self)
    rw [dropSequences, if_neg hp, ih fun hps => h (List.mem_cons_of_mem p hps)]

/-- No character is half of a pair. -/
theorem not_isHalf (c : Char) : isHalf c.toNat = false := by
  have hvalid : c.toNat < 0xd800 ∨ 0xdfff < c.toNat ∧ c.toNat < 0x110000 := c.valid
  simp only [isHalf, Bool.and_eq_false_iff, decide_eq_false_iff_not]
  omega

@[simp] theorem ofWhole_pointsOf (s : String) : ofWhole (pointsOf s) = s := by
  have hchar : Char.ofNat ∘ Char.toNat = id := funext Char.ofNat_toNat
  rw [ofWhole, pointsOf, List.map_map, hchar, List.map_id, String.ofList_toList]

theorem dropWhile_toNat (cs : List Char) : (cs.map Char.toNat).dropWhile (!isHalf ·) = [] := by
  induction cs with
  | nil => rfl
  | cons c cs ih => simp [not_isHalf, ih]

@[simp] theorem Wide.ofPoints_pointsOf (s : String) : Wide.ofPoints (pointsOf s) = .text s := by
  rw [Wide.ofPoints, pointsOf, dropWhile_toNat]
  exact congrArg Wide.text (ofWhole_pointsOf s)

/-- A string that holds no beginning of a control sequence is printed as it is. -/
theorem Wide.withoutSequences_text {s : String} (h : '\x1b' ∉ s.toList) :
    (Wide.text s).withoutSequences = .text s := by
  have hpoints : escapePoint ∉ pointsOf s := by
    intro hmem
    obtain ⟨c, hc, heq⟩ := List.mem_map.mp hmem
    have : c = '\x1b' := Char.toNat_inj.mp heq
    exact h (this ▸ hc)
  rw [Wide.withoutSequences, Wide.points, dropSequences_of_not_mem hpoints, ofPoints_pointsOf]

end Marshal.Text
