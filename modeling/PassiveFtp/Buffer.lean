/-!
# Buffers: how much memory can be asked for at once

A buffer takes at most half of the addresses there are, less one byte. To ask
for a greater one is not an error that could be answered: it ends whatever asked
for it, there and then. Up to that size the memory is taken to be there.
-/

namespace PassiveFtp.Buffer

/-- The size of the greatest buffer there can be, one byte less than `2 ^ 63`. -/
def greatest : Nat :=
  9223372036854775807

/-- A size of which a buffer can be reserved. -/
def Fits (size : Nat) : Prop :=
  size ≤ greatest

instance (size : Nat) : Decidable (Fits size) :=
  inferInstanceAs (Decidable (_ ≤ _))

end PassiveFtp.Buffer
