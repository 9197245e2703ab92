import LineScript.Text.Basic

/-!
# Listings

How the items of a listing are put on lines: one on a line, as many as fit with commas between them, or
in columns that are filled from top to bottom or line by line. Columns are as wide as their widest item
and two blanks, and there are as many as fit.
-/

namespace LineScript.Programs

set_option autoImplicit false

structure ListingItem where
  text : Text
  width : Nat

inductive Layout where
  | single
  | commas
  | downColumns
  | acrossColumns
  deriving DecidableEq

/-- The measures of a page: the width of a line, where zero is no limit, the distance of the places
that tabulators lead to, where zero is no tabulators, and the end of a line. -/
structure Page where
  lineWidth : Nat
  tabWidth : Nat
  lineEnd : Char

namespace Listing

def leastColumn : Nat := 3

def gapWithin (page : Page) : (steps : Nat) → (place target : Nat) → Text
  | 0, _, _ => []
  | steps + 1, place, target =>
    if target ≤ place then []
    else if page.tabWidth ≠ 0 && (place + 1) / page.tabWidth < target / page.tabWidth then
      '\t' :: gapWithin page steps (place + (page.tabWidth - place % page.tabWidth)) target
    else ' ' :: gapWithin page steps (place + 1) target

def gap (page : Page) (place target : Nat) : Text := gapWithin page (target - place) place target

def columnOf (layout : Layout) (count columns index : Nat) : Nat :=
  if layout = .downColumns then index / ((count + columns - 1) / columns) else index % columns

def columnWidths (layout : Layout) (items : List ListingItem) (columns : Nat) : List Nat :=
  items.zipIdx.foldl
    (fun widths (item, index) =>
      let column := columnOf layout items.length columns index
      let needed := item.width + if column + 1 = columns then 0 else 2
      widths.modify column (max needed ·))
    (List.replicate columns leastColumn)

/-- Whether columns of some widths fit on a line. Columns that no item makes wider always do. -/
def fits (page : Page) (widths : List Nat) : Bool :=
  widths.all (· == leastColumn) || widths.foldl (· + ·) 0 < page.lineWidth

def fitting (page : Page) (layout : Layout) (items : List ListingItem) : (most : Nat) → List Nat
  | 0 | 1 => columnWidths layout items 1
  | most + 1 =>
    let widths := columnWidths layout items (most + 1)
    if fits page widths then widths else fitting page layout items most

def mostColumns (page : Page) (count : Nat) : Nat :=
  min count ((page.lineWidth + leastColumn - 1) / leastColumn)

def line (page : Page) (place : Nat) : List (ListingItem × Nat) → Text
  | [] => [page.lineEnd]
  | [(item, _)] => item.text ++ [page.lineEnd]
  | (item, width) :: next :: rest =>
    item.text ++ gap page (place + item.width) (place + width) ++
      line page (place + width) (next :: rest)

def downColumns (page : Page) (items : List ListingItem) : Text :=
  let widths := fitting page .downColumns items (mostColumns page items.length)
  let rows := (items.length + widths.length - 1) / widths.length
  (List.range rows).flatMap fun row =>
    line page 0
      ((widths.zipIdx.filterMap fun (width, column) =>
        items[row + column * rows]?.map fun item => (item, width)))

def acrossColumns (page : Page) (items : List ListingItem) : Text :=
  let widths := fitting page .acrossColumns items (mostColumns page items.length)
  let rows := (items.length + widths.length - 1) / widths.length
  (List.range rows).flatMap fun row =>
    line page 0 ((items.drop (row * widths.length)).zip widths)

/-- Items with a mark between neighbours, a new line being begun where the next one would not fit. -/
def separated (page : Page) (mark : Text) (place : Nat) : List ListingItem → Text
  | [] => [page.lineEnd]
  | [item] => item.text ++ [page.lineEnd]
  | item :: next :: rest =>
    let place := place + item.width
    if page.lineWidth = 0 || place + next.width + 2 < page.lineWidth then
      item.text ++ mark ++ [' '] ++ separated page mark (place + 2) (next :: rest)
    else item.text ++ mark ++ [page.lineEnd] ++ separated page mark 0 (next :: rest)

def text (page : Page) (layout : Layout) (items : List ListingItem) : Text :=
  match layout, items with
  | _, [] => []
  | .single, _ => items.flatMap fun item => item.text ++ [page.lineEnd]
  | .commas, _ => separated page [','] 0 items
  | .downColumns, _ =>
    if page.lineWidth = 0 then separated page [' '] 0 items else downColumns page items
  | .acrossColumns, _ =>
    if page.lineWidth = 0 then separated page [' '] 0 items else acrossColumns page items

end Listing

end LineScript.Programs
