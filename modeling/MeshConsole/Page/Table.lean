import MeshConsole.Page.Markup
import MeshConsole.Table.Basic

/-!
# Tables on the page

A table is shown with its columns in the head and a line for each row. A sortable table has links in
its head, by which the operator sorts it. Some tables say so when they have no rows.
-/

namespace MeshConsole

open Markup

/-- The head of a column. The name and the key of a table are fixed words that need no escape. -/
def Column.head (id : TableId) (sortable : Bool) (column : Column) : Markup :=
  line 6 <|
    if sortable then
      [.markup "<th data-key=\"", .markup column.key, .markup "\"><a href=\"/tables/",
       .markup id.name, .markup "/sort?key=", .markup column.key, .markup "\">",
       .markup column.label, .markup "</a></th>"]
    else
      [.markup "<th data-key=\"", .markup column.key, .markup "\">", .markup column.label,
       .markup "</th>"]

/-- A line of a cell. In a cell that is marked as a link it is a link, unless it is empty. -/
def Cell.entry (link : Bool) (text : String) : Markup :=
  if link && !text.isEmpty then webLink text else [.text text]

/-- The lines of a cell, with breaks between them. -/
def Cell.entries (link : Bool) : List String → Markup
  | [] => []
  | [text] => Cell.entry link text
  | text :: next :: later =>
    Cell.entry link text ++ .markup "<br>" :: Cell.entries link (next :: later)

/-- A cell on the page. -/
def Cell.markup (cell : Cell) : Markup :=
  line 6 (.markup "<td>" :: Cell.entries cell.link cell.lines ++ [.markup "</td>"])

/-- A row on the page. -/
def Row.markup (row : Row) : Markup :=
  line 4 [.markup "<tr>"] ++ forEach 6 row Cell.markup ++ line 4 [.markup "</tr>"]

namespace Table

/-- What stands in the place of rows that are not there. -/
def remark (table : Table) (empty : String) : Markup :=
  shownIf 4 (table.rows.isEmpty && !empty.isEmpty) <|
    line 4
      [.markup "<tr><td colspan=\"",
       .markup (String.ofList (Decimal.natural table.id.columns.length)),
       .markup "\" class=\"text-muted\">", .markup empty, .markup "</td></tr>"]

/-- A table on the page. The remark about missing rows is left out if it is empty. -/
def markup (table : Table) (empty : String) (sortable : Bool) : Markup :=
  line 4 [] ++
  line 0
    [.markup "<table id=\"", .markup table.id.name,
     .markup "Table\" class=\"table table-condensed\">"] ++
  line 2 [.markup "<thead>"] ++
  line 4 [.markup "<tr>"] ++
  forEach 6 table.id.columns (Column.head table.id sortable) ++
  line 4 [.markup "</tr>"] ++
  line 2 [.markup "</thead>"] ++
  line 2 [.markup "<tbody>"] ++
  forEach 4 table.rows Row.markup ++
  table.remark empty ++
  line 2 [.markup "</tbody>"] ++
  line 0 [.markup "</table>"] ++
  line 0 []

end Table

end MeshConsole
