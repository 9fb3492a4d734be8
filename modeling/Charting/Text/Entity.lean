/-!
# Character entities

Five characters have a meaning of their own in markup and are written as entities.
-/

namespace Charting

/-- The entity of a character, or the character itself. -/
def escapeChar (c : Char) : List Char :=
  if c = '&' then "&amp;".toList
  else if c = '<' then "&lt;".toList
  else if c = '>' then "&gt;".toList
  else if c = '"' then "&quot;".toList
  else if c = '\'' then "&apos;".toList
  else [c]

/-- The text with its special characters written as entities. -/
def escapeMarkup (s : String) : String := String.ofList (s.toList.flatMap escapeChar)

end Charting
