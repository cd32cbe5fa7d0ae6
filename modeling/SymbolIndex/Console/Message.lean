import SymbolIndex.Console.CellWidth
import SymbolIndex.Console.Markup
import SymbolIndex.Text.Terminal

/-!
# Messages on a console

A message is printed in a style of its own, by markup around its escaped text. Control characters
are left out, and a tab becomes blanks up to the next multiple of eight cells.
-/

namespace SymbolIndex.Console

/-- The number of cells between two tab stops. -/
def tabWidth : Nat := 8

/-- A field with blanks in the place of the tab behind it: one, and more up to the next tab stop. -/
def padded (field : Text) : Text :=
  let t := field ++ [' ']
  t ++ List.replicate ((tabWidth - textWidth t % tabWidth) % tabWidth) ' '

/-- A line with blanks for its tabs. Every field starts at a tab stop. -/
def lineWithoutTabs (line : Text) : Text :=
  let fields := line.splitOn '\t'
  fields.dropLast.flatMap padded ++ fields.getLastD []

/-- A text with blanks for its tabs. -/
def withoutTabs (t : Text) : Text := Text.joinWith '\n' ((t.splitOn '\n').map lineWithoutTabs)

/-- A message between the tags of its style. -/
def styled (message : Text) : Text := "[red]".toList ++ escape message ++ "[/red]".toList

/-- What a console shows of a message. -/
def shown (message : Text) : Text :=
  withoutTabs (printedMarkup (styled message)).withoutControls

end SymbolIndex.Console
