import TagStore.Text.Alphabetic
import TagStore.Text.Category
/-!
# Text.Alphanumeric

Letters and digits in the Unicode sense: alphabetic characters and numbers of the
general categories `Nd`, `Nl` and `No`.
-/

namespace TagStore.Text

/-- Whether a character is a number: of general category `Nd`, `Nl` or `No`. -/
def isNumeric (c : Char) : Bool :=
  let g := category c
  g == "Nd" || g == "Nl" || g == "No"

/-- Whether a character is alphabetic or numeric. -/
def isAlphanumeric (c : Char) : Bool := isAlphabetic c || isNumeric c

end TagStore.Text
