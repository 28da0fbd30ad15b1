/-!
# Braces

Names for the braces, which open and close blocks in the texts of this library.
-/

set_option autoImplicit false

namespace Understudy.Text

def openBrace : String := "\x7b"

def closeBrace : String := "\x7d"

/-- The text between braces. -/
def braced (text : String) : String := openBrace ++ text ++ closeBrace

@[simp] theorem toList_openBrace : openBrace.toList = ['{'] := rfl

@[simp] theorem toList_closeBrace : closeBrace.toList = ['}'] := rfl

@[simp] theorem toList_braced (text : String) :
    (braced text).toList = '{' :: (text.toList ++ ['}']) := by
  simp [braced]

end Understudy.Text
