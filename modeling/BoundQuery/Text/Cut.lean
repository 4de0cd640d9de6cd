/-!
# Cutting and joining text

Cuts at a single character, replacement of a character by a text, joins with a separator, and
comparison that ignores the case of ASCII letters.

## Main definitions

* `cutAt`, a text before and after the first occurrence of a character
* `splitAll`, the pieces between all occurrences of a character
* `replaceEach`, each occurrence of a character replaced by a text
* `joinWith`, texts joined by a separator
* `sameIgnoringCase`, equality up to the case of ASCII letters
-/

namespace BoundQuery.Text

/-- The characters before and after the first `c`. -/
def cutCharsAt (c : Char) : List Char → Option (List Char × List Char)
  | [] => none
  | d :: ds =>
    if d = c then some ([], ds)
    else (cutCharsAt c ds).map fun (before, after) => (d :: before, after)

/-- The text before and after the first `c`, when it occurs. -/
def cutAt (c : Char) (s : String) : Option (String × String) :=
  (cutCharsAt c s.toList).map fun (before, after) => (String.ofList before, String.ofList after)

/-- The pieces between the occurrences of `c`: always one more than there are occurrences. -/
def splitChars (c : Char) : List Char → List (List Char)
  | [] => [[]]
  | d :: ds =>
    if d = c then [] :: splitChars c ds
    else match splitChars c ds with
      | [] => [[d]]
      | p :: ps => (d :: p) :: ps

/-- The pieces of a text between the occurrences of `c`. -/
def splitAll (c : Char) (s : String) : List String :=
  (splitChars c s.toList).map String.ofList

/-- Each `c` replaced by `image`. -/
def replaceEach (c : Char) (image : String) (s : String) : String :=
  String.ofList (s.toList.flatMap fun d => if d = c then image.toList else [d])

/-- The texts one after the other, with `separator` between neighbours. -/
def joinWith (separator : String) : List String → String
  | [] => ""
  | [s] => s
  | s :: rest => s ++ separator ++ joinWith separator rest

/-- Does the text contain the character? -/
def hasChar (c : Char) (s : String) : Bool :=
  s.toList.contains c

/-- Does `part` occur in the characters, without a gap? -/
def hasPart (part : List Char) : List Char → Bool
  | [] => part.isEmpty
  | c :: cs => part.isPrefixOf (c :: cs) || hasPart part cs

/-- Text with its ASCII letters in upper case and all else unchanged. -/
def asciiUpper (s : String) : List Char :=
  s.toList.map Char.toUpper

/-- Equality up to the case of ASCII letters. -/
def sameIgnoringCase (s t : String) : Bool :=
  asciiUpper s == asciiUpper t

end BoundQuery.Text
