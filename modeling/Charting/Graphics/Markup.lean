import Charting.Text.Entity

/-!
# Markup

A tree of elements with attributes, and its notation.  Character data is written with entities; the
values of attributes are written as they are, so they may not hold quotes.
-/

namespace Charting

/-- A piece of markup. -/
inductive Markup where
  /-- Character data. -/
  | chars (s : String)
  /-- An element without content. -/
  | empty (tag : String) (attributes : List (String × String))
  /-- An element with content. -/
  | element (tag : String) (attributes : List (String × String)) (content : List Markup)

namespace Markup

/-- The notation of attributes, each with a blank in front. -/
def attributesText (attributes : List (String × String)) : String :=
  String.join (attributes.map fun (name, value) => " " ++ name ++ "=\"" ++ value ++ "\"")

mutual

/-- The notation of a piece of markup. -/
def text : Markup → String
  | chars s => escapeMarkup s
  | empty tag attributes => "<" ++ tag ++ attributesText attributes ++ "/>"
  | element tag attributes content =>
    "<" ++ tag ++ attributesText attributes ++ ">" ++ contentText content ++ "</" ++ tag ++ ">"

/-- The notation of pieces of markup, one after another. -/
def contentText : List Markup → String
  | [] => ""
  | m :: rest => text m ++ contentText rest

end

/-- A piece of markup on a line of its own. -/
def onLine (m : Markup) : List Markup := [m, chars "\n"]

/-- An element whose content begins on the next line. -/
def block (tag : String) (attributes : List (String × String)) (content : List Markup) : Markup :=
  element tag attributes (chars "\n" :: content)

end Markup

end Charting
