/-!
# Blank characters and trimming

The blank characters are those with the Unicode property `White_Space`. Trimming removes them at
both ends of a text and nowhere else.
-/

namespace SqlTemplate.Text

def isBlank (c : Char) : Bool :=
  let n := c.toNat
  (0x9 ≤ n && n ≤ 0xD) || n == 0x20 || n == 0x85 || n == 0xA0 || n == 0x1680 ||
    (0x2000 ≤ n && n ≤ 0x200A) || n == 0x2028 || n == 0x2029 || n == 0x202F || n == 0x205F ||
    n == 0x3000

def trimStart (text : List Char) : List Char :=
  text.dropWhile isBlank

def trimEnd (text : List Char) : List Char :=
  (text.reverse.dropWhile isBlank).reverse

def trim (text : String) : String :=
  String.ofList (trimEnd (trimStart text.toList))

@[simp] theorem toList_trim (text : String) :
    (trim text).toList = trimEnd (trimStart text.toList) :=
  String.toList_ofList

example : trim "\u00a0\t a b\u3000\n" = "a b" := by decide +kernel

example : trim "\u200b a" = "\u200b a" := by decide +kernel

end SqlTemplate.Text
