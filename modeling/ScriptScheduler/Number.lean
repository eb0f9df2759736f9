/-!
# Powers and words

Powers of two and of ten as natural numbers, and the integers that fit in a signed word of 64
bits.
-/

namespace ScriptScheduler

/-! ### Powers -/

/-- Two to the power `k`. -/
def twoTo (k : Nat) : Nat := Nat.pow 2 k

/-- Ten to the power `k`. -/
def tenTo (k : Nat) : Nat := Nat.pow 10 k

/-! ### Signed words -/

/-- The signed word of 64 bits with a given value, if there is one. -/
def signedWord? (n : Int) : Option Int64 :=
  if Int64.minValue.toInt ≤ n ∧ n ≤ Int64.maxValue.toInt then some (Int64.ofInt n) else none

/-- The value of a word gives the word back. -/
@[simp] theorem signedWord?_toInt (word : Int64) : signedWord? word.toInt = some word := by
  unfold signedWord?
  rw [if_pos ⟨word.minValue_le_toInt, word.toInt_le⟩, Int64.ofInt_toInt]

/-- A word that is found has the value that was asked for. -/
theorem toInt_of_signedWord? {n : Int} {word : Int64} (found : signedWord? n = some word) :
    word.toInt = n := by
  unfold signedWord? at found
  split at found
  · next fits =>
    cases found
    exact Int64.toInt_ofInt_of_le fits.1 (Int.lt_add_one_of_le fits.2)
  · cases found

end ScriptScheduler
