import SymbolIndex.Console.EmojiTable
import SymbolIndex.Text.Blank

/-!
# Emoji by name

In what a console prints, a name between two colons stands for the emoji of that name, whatever
its case. Behind `-text` or `-emoji` at the end of the name the emoji is followed by the mark that
asks for a drawing without colors or in colors. What lies between the nearest colons and is no
name stays as it is, with both of its colons.
-/

namespace SymbolIndex.Console

/-- An entry of the table: a name and an emoji. -/
def emojiEntry (t : Text) : Text × Text :=
  (t.takeWhile (· != '='), (t.dropWhile (· != '=')).tail)

/-- The names with their emoji. -/
def emojiNames : List (Text × Text) := (emojiTable.toList.splitOnP Text.isBlank).map emojiEntry

/-- The lower case of a character that occurs in names. The signs of Kelvin and Angstrom are
letters like those they look like. -/
def lowerCase (c : Char) : Char :=
  if c.isUpper then c.toLower
  else if 0xC0 ≤ c.toNat ∧ c.toNat ≤ 0xDE ∧ c.toNat ≠ 0xD7 then Char.ofNat (c.toNat + 0x20)
  else if c.toNat = 0x212A then 'k'
  else if c.toNat = 0x212B then 'å'
  else c

/-- The ending of a name that asks for a drawing, and the mark that it stands for. -/
def drawings : List (Text × Char) :=
  [("-emoji".toList, Char.ofNat 0xFE0F), ("-text".toList, Char.ofNat 0xFE0E)]

/-- The emoji of a name without an ending. -/
def plainEmoji? (name : Text) : Option Text := emojiNames.lookup (name.map lowerCase)

/-- The emoji of a name. -/
def emoji? (name : Text) : Option Text :=
  match drawings.find? fun d => d.1.isSuffixOf name with
  | none                => plainEmoji? name
  | some (ending, mark) => (plainEmoji? (name.take (name.length - ending.length))).map (· ++ [mark])

/-- Whether a character can stand between two colons. -/
def isNamePart (c : Char) : Bool := c != ':' && !Text.isBlank c

/-- What is printed for a name between colons. -/
def namePrinted (name : Text) : Text := (emoji? name).getD (':' :: name ++ [':'])

/-- A text with its names replaced by emoji. -/
def withEmoji : Text → Text
  | []     => []
  | c :: r =>
    if c = ':' then
      match _h : r.dropWhile isNamePart with
      | ':' :: rest => namePrinted (r.takeWhile isNamePart) ++ withEmoji rest
      | _           => c :: withEmoji r
    else c :: withEmoji r
termination_by t => t.length
decreasing_by
  all_goals simp only [List.length_cons]
  · have := (List.dropWhile_sublist isNamePart : (r.dropWhile _).Sublist r).length_le
    rw [_h] at this
    simp only [List.length_cons] at this
    omega
  all_goals omega

end SymbolIndex.Console
