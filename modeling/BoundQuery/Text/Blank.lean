/-!
# Blanks and words

Blank characters are those of Unicode's `White_Space` property. Text is trimmed, and cut into
words, at blanks. The functions on `List Char` carry the definitions; those on `String` wrap them.

## Main definitions

* `isBlank`, the class of blank characters
* `trim`, `trimStart`, text without its outer blanks
* `isBlankText`, text of blanks only
* `words`, the maximal runs of non-blank characters
-/

namespace BoundQuery.Text

/-- The characters of Unicode's `White_Space` property. -/
def isBlank (c : Char) : Bool :=
  let n := c.toNat
  (9 ≤ n && n ≤ 13) || n == 0x20 || n == 0x85 || n == 0xA0 || n == 0x1680 ||
    (0x2000 ≤ n && n ≤ 0x200A) || n == 0x2028 || n == 0x2029 || n == 0x202F ||
    n == 0x205F || n == 0x3000

/-- Drop the leading blanks. -/
def dropBlanks (cs : List Char) : List Char :=
  cs.dropWhile isBlank

/-- Drop the trailing blanks. -/
def dropBlanksEnd (cs : List Char) : List Char :=
  (cs.reverse.dropWhile isBlank).reverse

/-- Text without its leading blanks. -/
def trimStart (s : String) : String :=
  String.ofList (dropBlanks s.toList)

/-- Text without its leading and trailing blanks. -/
def trim (s : String) : String :=
  String.ofList (dropBlanksEnd (dropBlanks s.toList))

/-- Text that trims to nothing. -/
def isBlankText (s : String) : Bool :=
  s.toList.all isBlank

/-- The maximal runs of non-blank characters. A character opens a word of its own when a blank or
the end follows it, and otherwise joins the word that starts right after it. -/
def wordsOf : List Char → List (List Char)
  | [] => []
  | c :: cs =>
    if isBlank c then wordsOf cs
    else match cs with
      | [] => [[c]]
      | d :: _ =>
        if isBlank d then [c] :: wordsOf cs
        else match wordsOf cs with
          | [] => [[c]]
          | w :: ws => (c :: w) :: ws

/-- The words of a text, in order. -/
def words (s : String) : List String :=
  (wordsOf s.toList).map String.ofList

end BoundQuery.Text
