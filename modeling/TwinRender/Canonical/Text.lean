/-!
# Canonical text

A parser makes no text node of no text. Where the expected tree has an empty text, markup has a
placeholder, a character that does not show; comparison takes a text of placeholders for empty.

## Main definitions

* `placeholder` — the character that stands for an empty text;
* `canonicalText` — the text that is compared.
-/

namespace TwinRender

/-- The zero-width joiner, which stands for an empty text in markup. -/
def placeholder : Char := '\u200d'

/-- A text as it is compared: empty when it consists of placeholders only. -/
def canonicalText (text : String) : String :=
  if text.toList.all (· == placeholder) then "" else text

end TwinRender
