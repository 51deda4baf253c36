import ProfilerBootstrap.Console.Shown

namespace ProfilerBootstrap.Console

inductive Side
  | left
  | right
  deriving DecidableEq, Repr

structure Column where
  header : List Char
  /-- The side at which the text of a cell stands. -/
  side : Side
  deriving DecidableEq, Repr

structure Table where
  title : List Char
  columns : List Column
  rows : List (List Shown)
  deriving DecidableEq, Repr

namespace Table

/-- The characters that end a line, for the measure of a cell. -/
def endsLine (c : Char) : Bool := [10, 28, 29, 30, 133, 8232, 8233].contains c.toNat

def padding : Nat := 2

def greatest (ns : List Nat) : Nat := ns.foldl max 0

def naturalWidth (cs : List Char) : Nat :=
  greatest ((cs.splitOnP endsLine).map width) + padding

def cells (t : Table) (n : Nat) (c : Column) : List (List Char) :=
  c.header :: t.rows.map fun row => (row.getD n (.plain [])).text

def naturalWidths (t : Table) (limit : Nat) : List Nat :=
  t.columns.mapIdx fun n c => min limit (greatest ((t.cells n c).map naturalWidth))

/-- The quotient, rounded to the nearest number, and half way to the even one. -/
def roundDiv (a b : Nat) : Nat :=
  let q := a / b
  if 2 * (a % b) < b ∨ (2 * (a % b) = b ∧ q % 2 = 0) then q else q + 1

/-- Takes an excess off the columns that have the greatest width, in equal shares, but from each at
most as much as is given. -/
def trimWidest (widest most : Nat) (excess share : Nat) : List Nat → List Nat
  | [] => []
  | w :: ws =>
    if w = widest then
      let d := min most (roundDiv excess share)
      (w - d) :: trimWidest widest most (excess - d) (share - 1) ws
    else w :: trimWidest widest most excess share ws

/-- Narrows the widest columns until all fit, not below the next widest at a time; each time they
get narrower by one cell at least. -/
def shrink (limit : Nat) : Nat → List Nat → List Nat
  | 0, ws => ws
  | fuel + 1, ws =>
    let excess := total ws - limit
    if excess = 0 then ws
    else
      let widest := greatest ws
      let next := greatest (ws.filter (· ≠ widest))
      shrink limit fuel <|
        trimWidest widest (min excess (widest - next)) excess (ws.count widest) ws

def widths (t : Table) (limit : Nat) : List Nat :=
  let ws := t.naturalWidths limit
  shrink limit (total ws - limit) ws

def cellLine (side : Side) (inner : Nat) (line : Shown) : Shown :=
  let cut (line : Shown) := line.cutTo (abbreviate inner line.text)
  match side with
  | .left => let line := cut line; { line with text := padRightTo inner line.text }
  | .right =>
    let line := cut (line.cutTo (Text.dropEnd Text.isBlank line.text))
    { line with text := padLeftTo inner line.text }

/-- The lines of a cell. There are none where there is no room between the blanks. -/
def cellLines (side : Side) (cells : Nat) (s : Shown) : List Shown :=
  let inner := cells - padding
  if inner = 0 then [] else (s.wrap .abbreviate inner).map (cellLine side inner)

def rule (left fill between right : Char) (ws : List Nat) : List Char :=
  left :: ((ws.map (List.replicate · fill)).intersperse [between]).flatten ++ [right]

abbrev Layout := List (Side × Nat)

def Layout.cellLines (columns : Layout) (row : List Shown) : List (List Shown) :=
  List.zipWith (fun c s => Table.cellLines c.1 c.2 s) columns row

def Layout.row (columns : Layout) (bar : Char) (row : List Shown) : List (List Char) :=
  let lines := columns.cellLines row
  let height := max 1 (greatest (lines.map List.length))
  (List.range height).map fun n =>
    let parts := List.zipWith
      (fun c ls => (ls[n]?.map fun l => ' ' :: l.text ++ [' ']).getD (blanks c.2)) columns lines
    bar :: (parts.intersperse [bar]).flatten ++ [bar]

def room (t : Table) (cells : Nat) : Nat := cells - (t.columns.length + 1)

def layout (t : Table) (cells : Nat) : Layout :=
  List.zip (t.columns.map Column.side) (t.widths (t.room cells))

def titleLines (t : Table) (cells : Nat) : List (List Char) :=
  (wrap .fold cells t.title).map fun line =>
    centre cells (crop cells (Text.dropEnd Text.isBlank line))

def lines (t : Table) (cells : Nat) : List (List Char) :=
  let ws := t.widths (t.room cells)
  let columns := t.layout cells
  let drawn := t.titleLines (total ws + t.columns.length + 1) ++ [rule '┏' '━' '┳' '┓' ws] ++
    columns.row '┃' (t.columns.map (.plain ·.header)) ++ [rule '┡' '━' '╇' '┩' ws] ++
    t.rows.flatMap (columns.row '│') ++ [rule '└' '─' '┴' '┘' ws]
  drawn.map (crop cells)

def text (t : Table) (cells : Nat) : String :=
  if cells = 0 then ""
  else String.join ((t.lines cells).map fun line => String.ofList line ++ "
")

/-- Whether a line of a cell holds something that cannot be drawn. -/
def drawsBroken (t : Table) (cells : Nat) : Bool :=
  t.rows.any fun row => ((t.layout cells).cellLines row).any (·.any (·.broken ≠ []))

end Table

end ProfilerBootstrap.Console
