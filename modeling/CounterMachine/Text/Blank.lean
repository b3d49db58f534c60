import CounterMachine.Text.CodeRange

/-!
# White space

The characters with the Unicode property `White_Space`. The zero-width space,
the byte order mark and the separators U+001C to U+001F are not among them.
-/

namespace CounterMachine.Text

/-- The blocks of the property `White_Space`. -/
def blankRanges : List CodeRange :=
  [⟨0x0009, 0x000D⟩, ⟨0x0020, 0x0020⟩, ⟨0x0085, 0x0085⟩, ⟨0x00A0, 0x00A0⟩, ⟨0x1680, 0x1680⟩,
   ⟨0x2000, 0x200A⟩, ⟨0x2028, 0x2029⟩, ⟨0x202F, 0x202F⟩, ⟨0x205F, 0x205F⟩, ⟨0x3000, 0x3000⟩]

def isBlank (c : Char) : Bool :=
  blankRanges.any (·.contains c)

end CounterMachine.Text
