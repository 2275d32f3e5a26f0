import FormulaNumerics.Text.CodeRange

set_option autoImplicit false

namespace FormulaNumerics.Text

def blankRanges : List CodeRange :=
  [⟨0x9, 0xD⟩, ⟨0x20, 0x20⟩, ⟨0x85, 0x85⟩, ⟨0xA0, 0xA0⟩, ⟨0x1680, 0x1680⟩, ⟨0x2000, 0x200A⟩,
  ⟨0x2028, 0x2029⟩, ⟨0x202F, 0x202F⟩, ⟨0x205F, 0x205F⟩, ⟨0x3000, 0x3000⟩]

def isBlank (c : Char) : Bool :=
  CodeRange.covers blankRanges c

def strip (text : List Char) : List Char :=
  text.filter (!isBlank ·)

def trimStart (text : List Char) : List Char :=
  text.dropWhile isBlank

def trimEnd (text : List Char) : List Char :=
  (trimStart text.reverse).reverse

def trim (text : List Char) : List Char :=
  trimEnd (trimStart text)

@[simp] theorem mem_strip (text : List Char) (c : Char) :
    c ∈ strip text ↔ c ∈ text ∧ isBlank c = false := by
  simp [strip]

@[simp] theorem strip_append (left right : List Char) :
    strip (left ++ right) = strip left ++ strip right := by
  simp [strip]

theorem strip_eq_self {text : List Char} (h : ∀ c ∈ text, isBlank c = false) :
    strip text = text := by
  simpa [strip] using h

end FormulaNumerics.Text
