import GoalPlanner.Decimal.Reader
import GoalPlanner.Text.Letters.Small

/-!
# Styles of text

A style is described by words: attributes by their long or short names, `not` in front of an attribute, a colour, `on`
in front of the colour of the ground, and `link` in front of a target. Descriptions that come to the same style have one
normal form (`normal?`); what describes no style is only trimmed and set in small letters. A mixed colour of which a
share is left out can neither be used nor be passed over.
-/

namespace GoalPlanner.Text.Markup

/-! ## Colours -/

/-- The names of colours. -/
def colourNames : List String := [
  "black red green yellow blue magenta cyan white bright_black bright_red bright_green bright_yellow bright_blue",
  "bright_magenta bright_cyan bright_white grey0 gray0 navy_blue dark_blue blue3 blue1 dark_green deep_sky_blue4",
  "dodger_blue3 dodger_blue2 green4 spring_green4 turquoise4 deep_sky_blue3 dodger_blue1 green3 spring_green3",
  "dark_cyan light_sea_green deep_sky_blue2 deep_sky_blue1 spring_green2 cyan3 dark_turquoise turquoise2 green1",
  "spring_green1 medium_spring_green cyan2 cyan1 dark_red deep_pink4 purple4 purple3 blue_violet orange4 grey37",
  "gray37 medium_purple4 slate_blue3 royal_blue1 chartreuse4 dark_sea_green4 pale_turquoise4 steel_blue steel_blue3",
  "cornflower_blue chartreuse3 cadet_blue sky_blue3 steel_blue1 pale_green3 sea_green3 aquamarine3 medium_turquoise",
  "chartreuse2 sea_green2 sea_green1 aquamarine1 dark_slate_gray2 dark_magenta dark_violet purple light_pink4 plum4",
  "medium_purple3 slate_blue1 yellow4 wheat4 grey53 gray53 light_slate_grey light_slate_gray medium_purple",
  "light_slate_blue dark_olive_green3 dark_sea_green light_sky_blue3 sky_blue2 dark_sea_green3 dark_slate_gray3",
  "sky_blue1 chartreuse1 light_green pale_green1 dark_slate_gray1 red3 medium_violet_red magenta3 dark_orange3",
  "indian_red hot_pink3 medium_orchid3 medium_orchid medium_purple2 dark_goldenrod light_salmon3 rosy_brown grey63",
  "gray63 medium_purple1 gold3 dark_khaki navajo_white3 grey69 gray69 light_steel_blue3 light_steel_blue yellow3",
  "dark_sea_green2 light_cyan3 light_sky_blue1 green_yellow dark_olive_green2 dark_sea_green1 pale_turquoise1",
  "deep_pink3 magenta2 hot_pink2 orchid medium_orchid1 orange3 light_pink3 pink3 plum3 violet light_goldenrod3 tan",
  "misty_rose3 thistle3 plum2 khaki3 light_goldenrod2 light_yellow3 grey84 gray84 light_steel_blue1 yellow2",
  "dark_olive_green1 honeydew2 light_cyan1 red1 deep_pink2 deep_pink1 magenta1 orange_red1 indian_red1 hot_pink",
  "dark_orange salmon1 light_coral pale_violet_red1 orchid2 orchid1 orange1 sandy_brown light_salmon1 light_pink1",
  "pink1 plum1 gold1 navajo_white1 misty_rose1 thistle1 yellow1 light_goldenrod1 khaki1 wheat1 cornsilk1 grey100",
  "gray100 grey3 gray3 grey7 gray7 grey11 gray11 grey15 gray15 grey19 gray19 grey23 gray23 grey27 gray27 grey30",
  "gray30 grey35 gray35 grey39 gray39 grey42 gray42 grey46 gray46 grey50 gray50 grey54 gray54 grey58 gray58 grey62",
  "gray62 grey66 gray66 grey70 gray70 grey74 gray74 grey78 gray78 grey82 gray82 grey85 gray85 grey89 gray89 grey93",
  "gray93"
].flatMap words

/-- Why words describe no style. -/
inductive Flaw
  /-- A word means nothing where it stands, or misses the one that has to follow it. -/
  | noMeaning
  /-- A mixed colour misses one of its shares. -/
  | noShare
  deriving DecidableEq, Repr

/-- The number that digits of any script spell. -/
def numberOf (cs : List Char) : Nat := cs.foldl (fun n c => 10 * n + (Decimal.digit? c).getD 0) 0

/-- What stands behind an opening and before the closing bracket. -/
def between? (opening : String) (w : List Char) : Option (List Char) :=
  if opening.toList.isPrefixOf w && w.getLast? == some ')' then some ((w.drop opening.length).dropLast) else none

/-- Checks the shares of a mixed colour, between commas: there are three of them, of at most 255 each. -/
def checkShares (cs : List Char) : Except Flaw Unit :=
  let shares := cs.splitOnP (· == ',')
  if shares.length != 3 || !shares.all (·.all fun c => (Decimal.digit? c).isSome) then .error .noMeaning
  else if shares.any fun share => share.isEmpty || Decimal.mostDigits < share.length then .error .noShare
  else if shares.all (numberOf · < 256) then .ok () else .error .noMeaning

/-- Checks that small letters name a colour: by a word, by six hexadecimal digits, by a number or by three shares. -/
def checkColour (w : String) : Except Flaw Unit :=
  let hexadecimal := match w.toList with
    | '#' :: ds => ds.length == 6 && ds.all fun c => c.isDigit || ('a' ≤ c && c ≤ 'f')
    | _ => false
  let numbered := (between? "color(" w.toList).any fun ds =>
    !ds.isEmpty && ds.length ≤ 3 && ds.all Char.isDigit && numberOf ds < 256
  if w == "default" || colourNames.contains w || hexadecimal || numbered then .ok ()
  else (between? "rgb(" w.toList).elim (.error .noMeaning) checkShares

/-! ## Styles -/

/-- The attributes of a style, in the order of the normal form. -/
def attributes : List String :=
  ["bold", "dim", "italic", "underline", "blink", "blink2", "reverse", "conceal", "strike", "underline2", "frame",
    "encircle", "overline"]

/-- The short names of attributes. -/
def shortNames : List (String × String) :=
  [("b", "bold"), ("d", "dim"), ("i", "italic"), ("u", "underline"), ("r", "reverse"), ("c", "conceal"),
    ("s", "strike"), ("uu", "underline2"), ("o", "overline")]

/-- The attribute of a name. -/
def attribute? (w : String) : Option String := if attributes.contains w then some w else shortNames.lookup w

/-- A style. -/
structure Style where
  /-- Attributes that are on or off; of two entries for one attribute the first counts. -/
  attributes : List (String × Bool)
  colour : Option String
  ground : Option String
  link : Option String

/-- The style that words describe on top of another. The first word that is wrong is the one that counts. -/
def Style.read (s : Style) : List String → Except Flaw Style
  | [] => .ok s
  | w :: rest =>
    let word := toSmall w
    match word, rest with
    | "on", g :: rest => do
      checkColour (toSmall g)
      { s with ground := some (toSmall g) }.read rest
    | "not", a :: rest =>
      match attribute? a with
      | some a => { s with attributes := (a, false) :: s.attributes }.read rest
      | none => .error .noMeaning
    | "link", target :: rest => { s with link := some target }.read rest
    | _, rest =>
      match attribute? word with
      | some a => { s with attributes := (a, true) :: s.attributes }.read rest
      | none => do
        checkColour word
        { s with colour := some word }.read rest

/-- The words of a style in normal form. -/
def Style.words (s : Style) : List String :=
  (Markup.attributes.filterMap fun a => (s.attributes.lookup a).map fun on => if on then a else "not " ++ a)
    ++ s.colour.toList ++ (s.ground.map ("on " ++ ·)).toList ++ (s.link.map ("link " ++ ·)).toList

/-- The normal form of a description, unless it has a mixed colour of which a share is left out. -/
def normal? (description : String) : Option String :=
  let trimmed := String.ofList (trim description.toList)
  if trimmed == "none" then some trimmed
  else match Style.read ⟨[], none, none, none⟩ (Text.words description) with
    | .ok s => some (if s.words.isEmpty then "none" else " ".intercalate s.words)
    | .error .noMeaning => some (toSmall trimmed)
    | .error .noShare => none

end GoalPlanner.Text.Markup
