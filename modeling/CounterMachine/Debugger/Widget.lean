/-!
# Widgets

A screen is put together from lists and paragraphs, each in a block with a border and a
title.  A terminal divides its area among them and draws them: how it divides an area,
and which cells a text takes up, is up to the terminal.
-/

namespace CounterMachine

inductive Color where
  | plain
  | red
  | green
  | yellow
  | magenta
  | cyan
  | gray
  | white
deriving DecidableEq

structure Style where
  color : Color
  bold : Bool
deriving DecidableEq

namespace Style

def ofColor (color : Color) : Style := ⟨color, false⟩

def plain : Style := ofColor .plain

end Style

structure Span where
  style : Style
  text : String
deriving DecidableEq

structure Block where
  style : Style
  title : String
deriving DecidableEq

inductive Widget where
  /-- Items that follow each other, each in a row that has its style. -/
  | list (block : Block) (items : List Span)
  /-- Lines of spans, all in a style that the spans may change. -/
  | paragraph (block : Block) (style : Style) (lines : List (List Span))
deriving DecidableEq

structure Area where
  left : Nat
  top : Nat
  width : Nat
  height : Nat
deriving DecidableEq

inductive Direction where
  | horizontal
  | vertical
deriving DecidableEq

inductive Extent where
  | percentage (n : Nat)
  | length (n : Nat)
  | min (n : Nat)
deriving DecidableEq

/-- What draws on frames. -/
structure Terminal (Frame : Type) where
  area : Frame → Area
  split {n : Nat} (direction : Direction) (extents : Vector Extent n) (area : Area) :
    Vector Area n
  render (frame : Frame) (widget : Widget) (area : Area) : Frame

end CounterMachine
