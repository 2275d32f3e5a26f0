import FormulaNumerics.Syntax.Grammar
import FormulaNumerics.Syntax.Malformed
import FormulaNumerics.Text.Blank

set_option autoImplicit false

namespace FormulaNumerics.Syntax

def recognize (levels : Nat) (text : List Char) : Except Malformed Phrase :=
  match (Grammar.whole text.length levels).run (.start text) .start with
  | .matched p _ _ => .ok p
  | .failed f => .error ⟨f.position + 1, .unexpected f.expected⟩
  | .tooDeep => .error ⟨text.length + 1, .nestedTooDeeply⟩

-- One phrase stands outside all parentheses.
def parseStripped (text : List Char) : Except Malformed Phrase :=
  match overNested? maxNesting 0 0 text with
  | some position => .error ⟨position + 1, .nestedTooDeeply⟩
  | none => recognize (maxNesting + 1) text

def Phrase.parse (text : String) : Except Malformed Phrase :=
  parseStripped (Text.strip text.toList)

end FormulaNumerics.Syntax
