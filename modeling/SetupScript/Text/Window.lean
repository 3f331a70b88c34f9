import SetupScript.Text.Search

/-!
# Windows of texts

The part of a text between two places, of which negative ones count from the end, and what is found in it.
-/

namespace SetupScript.Text

/-- A part of a text and where it begins. -/
structure Window where
  start : Nat
  content : List Char

/-- A bound brought into the range of places. -/
def clampPlace (length : Nat) (place : Int) : Nat :=
  if place < 0 then (place + length).toNat else place.toNat

/-- The part of a text between two places, unless the first one lies behind the second one. -/
def window? (text : List Char) (start? stop? : Option Int) : Option Window :=
  let start := (start?.map (clampPlace text.length)).getD 0
  let stop := min ((stop?.map (clampPlace text.length)).getD text.length) text.length
  if start ≤ stop then some { start := start, content := (text.take stop).drop start } else none

namespace Window

/-- The place of the first occurrence in a window, or of the last one. -/
def find? (window : Window) (fromEnd : Bool) (part : List Char) : Option Nat :=
  if fromEnd then
    (Text.find? part.reverse window.content.reverse).map fun place =>
      window.start + (window.content.length - part.length - place)
  else (Text.find? part window.content).map fun place => window.start + place

end Window

end SetupScript.Text
