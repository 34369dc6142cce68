import GoalPlanner.Text.Letters.Small
import GoalPlanner.Text.Markup.EmojiNames

/-!
# Emoji in text

A name between two colons stands for an emoji (`withEmoji`). Besides the listed names there are those of flags
(`flag_for_` and a country) and of skin tones (an emoji and `_light_skin_tone`, for instance): `emoji?`. An ending
`-text` or `-emoji` says how the emoji is to look. What names no emoji stays as it is, and so does a text without colons.
-/

namespace GoalPlanner.Text.Markup

/-! ## Names -/

/-- The part of a text in front of an ending, if it ends so. -/
def before? (ending : String) (cs : List Char) : Option (List Char) :=
  if ending.toList.isSuffixOf cs then some (cs.take (cs.length - ending.length)) else none

/-- The part of a text behind a beginning, if it begins so. -/
def behind? (beginning : String) (cs : List Char) : Option (List Char) :=
  if beginning.toList.isPrefixOf cs then some (cs.drop beginning.length) else none

/-- The characters that set a skin tone, by name. -/
def tones : List (String × Char) :=
  (["light", "medium-light", "medium", "medium-dark", "dark"].zipIdx 0x1F3FB).map fun t => (t.1, Char.ofNat t.2)

/-- The character that asks for the look of an emoji. -/
def emojiLook : Char := '\uFE0F'

/-- The character that asks for the look of a letter. -/
def textLook : Char := '\uFE0E'

/-- The flag of a country, by its letters. -/
def flag (letters : List Char) : List Char := letters.map fun c => Char.ofNat (0x1F1E6 + (c.toNat - 'A'.toNat))

/-- An emoji with a skin tone, which stands behind its first character. -/
def withTone (tone : Char) : List Char → List Char
  | c :: d :: r => if d == emojiLook then c :: tone :: r else c :: tone :: d :: r
  | cs => cs ++ [tone]

/-- The flags by the names of the countries. -/
def flags : List (String × List Char) := (entries flagLetters).map fun e => (e.1, flag e.2)

/-- The emoji that may have a skin tone. -/
def toned : List (String × List Char) := entries tonedEmoji

/-- All emoji with a name of their own. -/
def named : List (String × List Char) := flags ++ toned ++ entries plainEmoji

/-- The emoji of a name in small letters. -/
def emoji? (name : List Char) : Option (List Char) :=
  let country := (behind? "flag_for_" name).bind fun c => flags.lookup (String.ofList c)
  let person := tones.findSome? fun (tone, c) =>
    (before? ("_" ++ tone ++ "_skin_tone") name).bind fun base => (toned.lookup (String.ofList base)).map (withTone c)
  named.lookup (String.ofList name) <|> country <|> person

/-! ## Texts -/

/-- The emoji that a text between colons stands for. -/
def ofCode? (code : List Char) : Option (List Char) :=
  let look (ending : String) (c : Char) : Option (List Char × List Char) := (before? ending code).map (·, [c])
  let (name, ending) := (look "-emoji" emojiLook <|> look "-text" textLook).getD (code, [])
  (emoji? (smallFrom [] name)).map (· ++ ending)

/-- A text with its emoji, given what stands before the first colon and behind each of them. A text with a blank
stands between no two colons. -/
def joinCodes (front : List Char) : List (List Char) → List Char
  | [] => front
  | [part] => front ++ ':' :: part
  | code :: part :: parts =>
    if code.any isBlank then front ++ ':' :: joinCodes code (part :: parts)
    else front ++ (ofCode? code).getD (':' :: code ++ [':']) ++ joinCodes part parts

/-- A text with the emoji that it names. -/
def withEmoji (cs : List Char) : List Char :=
  match cs.splitOnP (· == ':') with
  | front :: parts => joinCodes front parts
  | [] => []

end GoalPlanner.Text.Markup
