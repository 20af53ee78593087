/-!
# Blank text

A text is blank when it has no character outside Unicode's `White_Space` property; the empty
text is blank. The property has twenty-five members, which are listed here.
-/

namespace Courier.Text

/-- Unicode's `White_Space` property. -/
def isBlankChar (c : Char) : Bool :=
  let n := c.toNat
  (9 ≤ n && n ≤ 13) || n = 0x20 || n = 0x85 || n = 0xA0 || n = 0x1680
    || (0x2000 ≤ n && n ≤ 0x200A) || n = 0x2028 || n = 0x2029 || n = 0x202F || n = 0x205F
    || n = 0x3000

/-- Whether a text has no character but white space. -/
def isBlank (text : String) : Bool := text.toList.all isBlankChar

end Courier.Text
