/-!
# White space and lines

The White_Space property of Unicode has 25 characters.  Texts are trimmed of them, and split into
words at them.  Lines end at a line feed, and a carriage return right before it belongs to the line
end.

All functions work on lists of characters, which is the form in which texts are reasoned about.
-/

namespace HidMend.Text

/-- Whether the code point of a character is in one of some ranges. -/
def inRanges (ranges : List (Nat × Nat)) (char : Char) : Bool :=
  ranges.any fun range => range.1 ≤ char.toNat && char.toNat ≤ range.2

/-- The White_Space property as ascending ranges of code points. -/
def blankRanges : List (Nat × Nat) :=
  [(0x9, 0xD), (0x20, 0x20), (0x85, 0x85), (0xA0, 0xA0), (0x1680, 0x1680), (0x2000, 0x200A),
    (0x2028, 0x2029), (0x202F, 0x202F), (0x205F, 0x205F), (0x3000, 0x3000)]

def isBlank (char : Char) : Bool :=
  inRanges blankRanges char

def trimStart (text : List Char) : List Char :=
  text.dropWhile isBlank

def trimEnd (text : List Char) : List Char :=
  (text.reverse.dropWhile isBlank).reverse

def trim (text : List Char) : List Char :=
  trimEnd (trimStart text)

/-- Split before a separator: the text in front of its first occurrence and the text behind it. -/
def splitFirst? (separator : Char) : List Char → Option (List Char × List Char)
  | [] => none
  | char :: rest =>
      if char = separator then some ([], rest)
      else (splitFirst? separator rest).map fun parts => (char :: parts.1, parts.2)

/-- The words of a text, each in the order it is written, with `word` the characters of the word
that is being read. -/
def wordsFrom (word : List Char) : List Char → List (List Char)
  | [] => if word.isEmpty then [] else [word]
  | char :: rest =>
      if isBlank char then
        if word.isEmpty then wordsFrom [] rest else word :: wordsFrom [] rest
      else wordsFrom (word ++ [char]) rest

/-- The maximal runs of characters that are not white space. -/
def words (text : List Char) : List (List Char) :=
  wordsFrom [] text

/-- Drop the carriage return of a line end. -/
def dropReturn (line : List Char) : List Char :=
  if line.getLast? = some '\r' then line.dropLast else line

/-- The lines of a text.  A line feed at the end of the text starts no further line, and only a
line that ends with a line feed loses its carriage return. -/
def linesFrom (line : List Char) : List Char → List (List Char)
  | [] => if line.isEmpty then [] else [line]
  | char :: rest =>
      if char = '\n' then dropReturn line :: linesFrom [] rest
      else linesFrom (line ++ [char]) rest

def lines (text : List Char) : List (List Char) :=
  linesFrom [] text

end HidMend.Text
