import ReadoutControl.Number.Decimal

set_option autoImplicit false

/-!
Names that end in a number.
-/

namespace ReadoutControl.Text

def numbered (stem : String) (i : Nat) : String :=
  stem ++ String.ofList (Decimal.digitChars i)

end ReadoutControl.Text
