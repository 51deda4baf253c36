namespace ProfilerBootstrap.Text

/-- The controls and separators that count as white space beside the space and the line breaks. -/
def blankPoints : List Nat :=
  [9, 10, 11, 12, 13, 28, 29, 30, 31, 32, 133, 160, 5760, 8192, 8193, 8194, 8195, 8196, 8197, 8198,
    8199, 8200, 8201, 8202, 8232, 8233, 8239, 8287, 12288]

def isBlankPoint (n : Nat) : Bool := blankPoints.contains n

def isBlank (c : Char) : Bool := isBlankPoint c.toNat

def dropEnd (p : α → Bool) (cs : List α) : List α := (cs.reverse.dropWhile p).reverse

def trim (p : α → Bool) (cs : List α) : List α := dropEnd p (cs.dropWhile p)

end ProfilerBootstrap.Text
