/-!
# Sums of words

A sum of two words that is no word itself stops the program that asked for it.
-/

namespace PlatformAudit.Word

def add? (first second : UInt32) : Option UInt32 :=
  if first.toNat + second.toNat < UInt32.size then some (first + second) else none

theorem add?_of_fits {first second : UInt32}
    (fits : first.toNat + second.toNat < UInt32.size) :
    add? first second = some (first + second) :=
  if_pos fits

theorem toNat_of_add? {first second sum : UInt32} (added : add? first second = some sum) :
    sum.toNat = first.toNat + second.toNat := by
  unfold add? at added
  split at added <;> rename_i fits
  · obtain rfl : first + second = sum := Option.some.inj added
    rw [UInt32.toNat_add]
    exact Nat.mod_eq_of_lt fits
  · cases added

end PlatformAudit.Word
