import Marshal.Text.Blank
import Marshal.Text.Lowercase
import Marshal.Text.Numeral

/-!
# Styles

How a text is set, in words: attributes, each of which may be turned off by `not`, a colour, a
colour to stand on, and a link. Descriptions of one style share a normal form.
-/

namespace Marshal.Text
set_option autoImplicit false

/-- What can be turned on and off. -/
inductive Attribute where
  | bold
  | dim
  | italic
  | underline
  | blink
  | blink2
  | reverse
  | conceal
  | strike
  | underline2
  | frame
  | encircle
  | overline
deriving DecidableEq, Repr, Inhabited

namespace Attribute

def all : List Attribute :=
  [.bold, .dim, .italic, .underline, .blink, .blink2, .reverse, .conceal, .strike, .underline2,
    .frame, .encircle, .overline]

def words : Attribute → List String
  | .bold => ["bold", "b"]
  | .dim => ["dim", "d"]
  | .italic => ["italic", "i"]
  | .underline => ["underline", "u"]
  | .blink => ["blink"]
  | .blink2 => ["blink2"]
  | .reverse => ["reverse", "r"]
  | .conceal => ["conceal", "c"]
  | .strike => ["strike", "s"]
  | .underline2 => ["underline2", "uu"]
  | .frame => ["frame"]
  | .encircle => ["encircle"]
  | .overline => ["overline", "o"]

def name (a : Attribute) : String := a.words.headD ""

def ofWord? (word : String) : Option Attribute := all.find? (·.words.contains word)

end Attribute

/-- Why words describe no style. -/
inductive StyleFault where
  /-- A word has no meaning where it stands. -/
  | senseless
  /-- A part of a colour is no number. -/
  | numeral (fault : NumeralFault)
deriving DecidableEq, Repr, Inhabited

def colorNames : List String :=
  ["black", "red", "green", "yellow", "blue", "magenta", "cyan", "white", "bright_black",
   "bright_red", "bright_green", "bright_yellow", "bright_blue", "bright_magenta", "bright_cyan",
   "bright_white", "grey0", "gray0", "navy_blue", "dark_blue", "blue3", "blue1", "dark_green",
   "deep_sky_blue4", "dodger_blue3", "dodger_blue2", "green4", "spring_green4", "turquoise4",
   "deep_sky_blue3", "dodger_blue1", "green3", "spring_green3", "dark_cyan", "light_sea_green",
   "deep_sky_blue2", "deep_sky_blue1", "spring_green2", "cyan3", "dark_turquoise", "turquoise2",
   "green1", "spring_green1", "medium_spring_green", "cyan2", "cyan1", "dark_red", "deep_pink4",
   "purple4", "purple3", "blue_violet", "orange4", "grey37", "gray37", "medium_purple4",
   "slate_blue3", "royal_blue1", "chartreuse4", "dark_sea_green4", "pale_turquoise4",
   "steel_blue", "steel_blue3", "cornflower_blue", "chartreuse3", "cadet_blue", "sky_blue3",
   "steel_blue1", "pale_green3", "sea_green3", "aquamarine3", "medium_turquoise", "chartreuse2",
   "sea_green2", "sea_green1", "aquamarine1", "dark_slate_gray2", "dark_magenta", "dark_violet",
   "purple", "light_pink4", "plum4", "medium_purple3", "slate_blue1", "yellow4", "wheat4",
   "grey53", "gray53", "light_slate_grey", "light_slate_gray", "medium_purple",
   "light_slate_blue", "dark_olive_green3", "dark_sea_green", "light_sky_blue3", "sky_blue2",
   "dark_sea_green3", "dark_slate_gray3", "sky_blue1", "chartreuse1", "light_green",
   "pale_green1", "dark_slate_gray1", "red3", "medium_violet_red", "magenta3", "dark_orange3",
   "indian_red", "hot_pink3", "medium_orchid3", "medium_orchid", "medium_purple2",
   "dark_goldenrod", "light_salmon3", "rosy_brown", "grey63", "gray63", "medium_purple1", "gold3",
   "dark_khaki", "navajo_white3", "grey69", "gray69", "light_steel_blue3", "light_steel_blue",
   "yellow3", "dark_sea_green2", "light_cyan3", "light_sky_blue1", "green_yellow",
   "dark_olive_green2", "dark_sea_green1", "pale_turquoise1", "deep_pink3", "magenta2",
   "hot_pink2", "orchid", "medium_orchid1", "orange3", "light_pink3", "pink3", "plum3", "violet",
   "light_goldenrod3", "tan", "misty_rose3", "thistle3", "plum2", "khaki3", "light_goldenrod2",
   "light_yellow3", "grey84", "gray84", "light_steel_blue1", "yellow2", "dark_olive_green1",
   "honeydew2", "light_cyan1", "red1", "deep_pink2", "deep_pink1", "magenta1", "orange_red1",
   "indian_red1", "hot_pink", "dark_orange", "salmon1", "light_coral", "pale_violet_red1",
   "orchid2", "orchid1", "orange1", "sandy_brown", "light_salmon1", "light_pink1", "pink1",
   "plum1", "gold1", "navajo_white1", "misty_rose1", "thistle1", "yellow1", "light_goldenrod1",
   "khaki1", "wheat1", "cornsilk1", "grey100", "gray100", "grey3", "gray3", "grey7", "gray7",
   "grey11", "gray11", "grey15", "gray15", "grey19", "gray19", "grey23", "gray23", "grey27",
   "gray27", "grey30", "gray30", "grey35", "gray35", "grey39", "gray39", "grey42", "gray42",
   "grey46", "gray46", "grey50", "gray50", "grey54", "gray54", "grey58", "gray58", "grey62",
   "gray62", "grey66", "gray66", "grey70", "gray70", "grey74", "gray74", "grey78", "gray78",
   "grey82", "gray82", "grey85", "gray85", "grey89", "gray89", "grey93", "gray93"]

/-- What stands between a beginning and a closing parenthesis. -/
def enclosed? (beginning : String) (cs : List Char) : Option (List Char) :=
  if beginning.toList.isPrefixOf cs && cs.getLast? == some ')' then
    some ((cs.drop beginning.length).dropLast)
  else none

/-- Fails unless a number is a part of a colour. -/
def checkPart (n : Nat) : Except StyleFault Unit :=
  if n ≤ 255 then .ok () else .error .senseless

/-- Fails unless numbers between commas are the three parts of a colour. -/
def checkParts (cs : List Char) : Except StyleFault Unit :=
  match between (· == ',') cs with
  | [red, green, blue] => do
    let parts ← [red, green, blue].mapM fun p => (readNumeral p).mapError .numeral
    parts.forM checkPart
  | _ => .error .senseless

/-- Fails unless a word is a colour: a name, six hexadecimal digits, a number or three parts. -/
def checkColor (word : List Char) : Except StyleFault Unit :=
  if (String.ofList word) = "default" ∨ colorNames.contains (String.ofList word) then .ok ()
  else
    match word with
    | '#' :: digits =>
      if digits.length = 6 ∧ digits.all (fun c => c.isDigit || 'a' ≤ c && c ≤ 'f') then .ok ()
      else .error .senseless
    | _ =>
      match enclosed? "color(" word, enclosed? "rgb(" word with
      | some digits, _ =>
        if !digits.isEmpty && digits.length ≤ 3 && digits.all Char.isDigit then
          checkPart ((decimalNumber? digits).getD 0)
        else .error .senseless
      | none, some parts =>
        if !parts.isEmpty && parts.all (fun c => isDecimal c || c == ',') then checkParts parts
        else .error .senseless
      | none, none => .error .senseless

structure Style where
  /-- The attributes that are turned on or off, the last one first. -/
  attributes : List (Attribute × Bool)
  color : Option String
  background : Option String
  link : Option String
deriving DecidableEq, Repr, Inhabited

namespace Style

def none : Style := ⟨[], Option.none, Option.none, Option.none⟩

/-- A style after words were added. -/
def add (s : Style) : List (List Char) → Except StyleFault Style
  | [] => .ok s
  | w :: ws =>
    let word := lower w
    match String.ofList word with
    | "on" =>
      match ws with
      | [] => .error .senseless
      | c :: rest => do
        checkColor (lower c)
        add { s with background := some (String.ofList (lower c)) } rest
    | "not" =>
      match ws with
      | [] => .error .senseless
      | a :: rest =>
        match Attribute.ofWord? (String.ofList a) with
        | some a => add { s with attributes := (a, false) :: s.attributes } rest
        | Option.none => .error .senseless
    | "link" =>
      match ws with
      | [] => .error .senseless
      | address :: rest => add { s with link := some (String.ofList address) } rest
    | text =>
      match Attribute.ofWord? text with
      | some a => add { s with attributes := (a, true) :: s.attributes } ws
      | Option.none => do
        checkColor word
        add { s with color := some text } ws

def read (description : List Char) : Except StyleFault Style :=
  if trim description = "none".toList then .ok none else none.add (words description)

def normalWords (s : Style) : List String :=
  let attributes := Attribute.all.flatMap fun a =>
    match s.attributes.lookup a with
    | some true => [a.name]
    | some false => ["not", a.name]
    | Option.none => []
  attributes ++ s.color.toList ++ (s.background.toList.flatMap fun c => ["on", c]) ++
    s.link.toList.flatMap fun address => ["link", address]

def text (s : Style) : String :=
  if s.normalWords.isEmpty then "none" else " ".intercalate s.normalWords

/-- The normal form of a description; one of no style is taken in lower case. -/
def normalize (description : List Char) : Except NumeralFault String :=
  match read description with
  | .ok s => .ok s.text
  | .error .senseless => .ok (String.ofList (lower (trim description)))
  | .error (.numeral e) => .error e

end Style

end Marshal.Text
