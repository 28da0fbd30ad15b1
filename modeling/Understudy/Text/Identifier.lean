import Understudy.Text.Identifier.Table
import Understudy.Text.Ranges

/-!
# Identifier characters

The default identifier profile of Unicode with the low line added: what may begin a name and what
may continue one.
-/

set_option autoImplicit false

namespace Understudy.Text

/-- Whether a name may begin with the character. -/
def isNameStart (c : Char) : Bool := c == '_' || inRanges Identifier.start c.toNat

/-- Whether a name may go on with the character. -/
def isNameChar (c : Char) : Bool := c == '_' || inRanges Identifier.continuation c.toNat

end Understudy.Text
