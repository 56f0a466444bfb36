set_option autoImplicit false

/-!
Initial tokens. A positive count is held by the trigger emulator, otherwise its magnitude is held
by the data writer.
-/

namespace ReadoutControl

structure TokenSplit where
  triggerEmulator : Int64
  dataWriter : Int64
  deriving DecidableEq

namespace TokenSplit

/-- The lowest count has no magnitude in range. -/
def ofCount? (count : Int64) : Option TokenSplit :=
  if 0 < count then some ⟨count, 0⟩
  else if count = Int64.minValue then none
  else some ⟨0, -count⟩

end TokenSplit

end ReadoutControl
