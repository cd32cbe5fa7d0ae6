import SymbolIndex.Text.Blank
import SymbolIndex.Text.Margin

/-!
# Documentation comments

A comment is recorded as it stands in the source, between `(**` and `*)`. `clean` takes the
delimiters away, the blanks around the first line and the margin that the following lines share.
-/

namespace SymbolIndex.Comment

/-- The mark that opens a comment. -/
def openMark : Text := ['(', '*', '*']

/-- The mark that closes a comment. -/
def closeMark : Text := ['*', ')']

/-- `t` without the opening mark at its start, or `t` when it does not start with it. -/
def dropOpen (t : Text) : Text :=
  if openMark.isPrefixOf t then t.drop openMark.length else t

/-- `t` without the closing mark at its end, or `t` when it does not end with it. -/
def dropClose (t : Text) : Text :=
  if closeMark.isSuffixOf t then t.take (t.length - closeMark.length) else t

/-- What stands between the delimiters of a comment. -/
def body (raw : Text) : Text := dropClose (dropOpen raw.trim)

/-- The lines of a comment's body with their indentation removed: the first line follows the
opening mark, so it has no part in the margin. -/
def undented (body : Text) : Text :=
  match body.lines with
  | []           => []
  | first :: rest =>
    Text.unlines ([first.trim, Text.unlines (Text.withoutMargin rest)].filter (!·.isEmpty))

/-- The text of a comment, or nothing when only blanks remain. -/
def clean (raw : Text) : Option Text :=
  match (undented (body raw)).trim with
  | [] => none
  | t  => some t

end SymbolIndex.Comment
