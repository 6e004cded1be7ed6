/-
# Letters of every script

Names may be written in any script. They start with a letter and go on with letters and numerals.
-/

import VisualNovel.Text.Letter.Table

namespace VisualNovel.Text

/-- Whether `c` is a letter of some script. -/
def isLetter (c : Char) : Bool := letterRanges.contains c

/-- Whether `c` is a letter or a numeral of some script. -/
def isLetterOrNumeral (c : Char) : Bool := isLetter c || numeralRanges.contains c

example : isLetter '名' ∧ isLetter 'ß' ∧ ¬ isLetter '1' ∧ isLetterOrNumeral '٣' ∧
    ¬ isLetterOrNumeral '-' := by decide +kernel

end VisualNovel.Text
