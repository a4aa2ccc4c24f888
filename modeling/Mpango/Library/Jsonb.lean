import Mathlib
import Mpango.Library.Dict

/-!
# Objects in a `jsonb` column

A `jsonb` column keeps the entries of an object, but not their order: shorter keys come first, and
keys of one length in the order of their bytes.
-/

namespace Mpango.Jsonb

variable {β : Type}

/-- The order of the keys. -/
def KeyLe (p q : String × β) : Prop :=
  p.1.utf8ByteSize < q.1.utf8ByteSize ∨
    (p.1.utf8ByteSize = q.1.utf8ByteSize ∧ p.1.toList ≤ q.1.toList)

instance : DecidableRel (KeyLe (β := β)) := fun p q =>
  inferInstanceAs (Decidable (p.1.utf8ByteSize < q.1.utf8ByteSize ∨
    (p.1.utf8ByteSize = q.1.utf8ByteSize ∧ p.1.toList ≤ q.1.toList)))

/-- An object as it is read back. -/
def object (d : Dict String β) : Dict String β := d.insertionSort KeyLe

theorem perm_object (d : Dict String β) : (object d).Perm d := List.perm_insertionSort _ d

/-- Where no key repeats, a key is looked up in what is read back as in what was written. -/
theorem get_object {d : Dict String β} (h : (d.map Prod.fst).Nodup) (k : String) :
    Dict.get (object d) k = Dict.get d k :=
  (Dict.get_of_perm (perm_object d).symm h k).symm

end Mpango.Jsonb
