/-!
# Blank space

The characters that have the white space property, and texts without those at their ends.
-/

namespace RouterAdvert.Text

def blankBlocks : List (Nat × Nat) :=
  [(0x9, 0xd), (0x20, 0x20), (0x85, 0x85), (0xa0, 0xa0), (0x1680, 0x1680), (0x2000, 0x200a),
   (0x2028, 0x2029), (0x202f, 0x202f), (0x205f, 0x205f), (0x3000, 0x3000)]

def isWhite (c : Char) : Bool :=
  blankBlocks.any fun (first, last) => first ≤ c.toNat && c.toNat ≤ last

def trimStart (cs : List Char) : List Char := cs.dropWhile isWhite

def trim (cs : List Char) : List Char := (trimStart (trimStart cs).reverse).reverse

end RouterAdvert.Text
