import Understudy.Files.OsText
import Understudy.Proofs.Core

/-!
# Texts as bytes

A text is told by its bytes, and bytes that are UTF-8 are read and written without loss.

* `OsText.toStr?_eq_some_iff`: which bytes are a text.
* `OsText.lossy_ofString`: a text is written as it is.
-/

set_option autoImplicit false

namespace Understudy.Files.OsText

section
variable {s t : String}

theorem toStr?_eq_some_iff {bytes : OsText} : toStr? bytes = some s ↔ bytes = ofString s :=
  fromUTF8?_eq_some_iff

@[simp]
theorem toStr?_ofString (s : String) : toStr? (ofString s) = some s := toStr?_eq_some_iff.2 rfl

@[simp]
theorem lossy_ofString (s : String) : lossy (ofString s) = s := by
  rw [lossy, toStr?_ofString]

theorem ofString_inj : ofString s = ofString t ↔ s = t :=
  ⟨fun h => Option.some.inj ((toStr?_ofString s).symm.trans (h ▸ toStr?_ofString t)), congrArg _⟩

theorem ofString_eq_nil_iff : ofString s = [] ↔ s = "" := ofString_inj (t := "")

end

end Understudy.Files.OsText
