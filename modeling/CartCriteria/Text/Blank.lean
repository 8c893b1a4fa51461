/-! Three classes of blank characters: those trimmed around a number in text, those skipped between
the tokens of a relaxed document, and the line terminators. -/
namespace CartCriteria.Text

def isWhiteSpace (c : Char) : Bool :=
  let n := c.toNat
  (0x09 ≤ n && n ≤ 0x0D) || n == 0x20 || n == 0x85 || n == 0xA0 || n == 0x1680
    || (0x2000 ≤ n && n ≤ 0x200A) || n == 0x2028 || n == 0x2029 || n == 0x202F || n == 0x205F
    || n == 0x3000

/-- The byte-order mark is trimmed like white space, though it has not the property. -/
def isTrimmable (c : Char) : Bool :=
  isWhiteSpace c || c == '\uFEFF'

def isLineTerminator (c : Char) : Bool :=
  c == '\n' || c == '\r' || c == '\u2028' || c == '\u2029'

/-- Every white-space character but next line (U+0085), and the byte-order mark. -/
def isRelaxedBlank (c : Char) : Bool :=
  isTrimmable c && c != '\u0085'

def trimBoth (p : Char → Bool) (cs : List Char) : List Char :=
  ((cs.dropWhile p).reverse.dropWhile p).reverse

end CartCriteria.Text
