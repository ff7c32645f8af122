namespace DoubleRatchet

/-!
# Octet strings

Messages, documents and key material are finite strings of octets.  A string
of any length is a plain list, so that the whole list library applies to it as
it stands.  Keys, digests and nonces have a length that is part of their
meaning, and `Octets` carries that length in its type: no function that
receives a 32-octet key has to say what it does with 31 octets.

The view of an `Octets n` is `toList`, and two of them are equal exactly when
their views are.
-/

/-- A string of octets of any length. -/
abbrev Bytes := List UInt8

/-- The first `count` pieces of `size` octets each, in order.  A string that ends
early gives shorter pieces. -/
def Bytes.chunks (bytes : Bytes) (size : Nat) : (count : Nat) -> List Bytes
  | 0 => []
  | count + 1 => bytes.take size :: Bytes.chunks (bytes.drop size) size count

/-- A string of exactly `n` octets. -/
structure Octets (n : Nat) where
  toList : Bytes
  length_toList : toList.length = n
  deriving DecidableEq

namespace Octets

variable {m n : Nat}

attribute [simp] length_toList

@[ext] theorem ext {a b : Octets n} (same : a.toList = b.toList) : a = b := by
  cases a
  cases b
  cases same
  rfl

/-- Reads a string as one of fixed length, and refuses every other length. -/
def ofList? (n : Nat) (bytes : Bytes) : Option (Octets n) :=
  if exact : bytes.length = n then some ⟨bytes, exact⟩ else none

@[simp] theorem ofList?_toList (a : Octets n) : ofList? n a.toList = some a := by
  simp [ofList?]

theorem ofList?_eq_some_iff {bytes : Bytes} {a : Octets n} :
    ofList? n bytes = some a ↔ bytes = a.toList := by
  constructor
  · intro read
    unfold ofList? at read
    split at read
    · cases read
      rfl
    · cases read
  · rintro rfl
    exact ofList?_toList a

theorem ofList?_eq_none_iff {bytes : Bytes} : ofList? n bytes = none ↔ bytes.length ≠ n := by
  simp [ofList?]

/-- The string that repeats one octet. -/
def replicate (n : Nat) (octet : UInt8) : Octets n :=
  ⟨List.replicate n octet, List.length_replicate⟩

instance : Inhabited (Octets n) := ⟨replicate n 0⟩

/-- The octets of `bytes` from the first on, cut or filled with zero octets to
the wanted length.  Nothing is cut or filled where the length is right already. -/
def fill (n : Nat) (bytes : Bytes) : Octets n :=
  ⟨(bytes ++ List.replicate n 0).take n, by simp⟩

@[simp] theorem fill_toList (a : Octets n) : fill n a.toList = a := by
  apply ext
  simp [fill]

/-- One string after another. -/
def append (a : Octets m) (b : Octets n) : Octets (m + n) :=
  ⟨a.toList ++ b.toList, by simp⟩

/-- The first `m` octets. -/
def first (m : Nat) (a : Octets n) (fits : m ≤ n := by decide) : Octets m :=
  ⟨a.toList.take m, by simp [fits]⟩

/-- The `m` octets that follow the first `skipped`. -/
def slice (skipped m : Nat) (a : Octets n) (fits : skipped + m ≤ n := by decide) : Octets m :=
  ⟨(a.toList.drop skipped).take m, by simp; omega⟩

/-- The two halves of a string of even length. -/
def halves (a : Octets (n + n)) : Octets n × Octets n :=
  (a.first n (by omega), a.slice n n (by omega))

theorem first_append_slice (a : Octets (m + n)) :
    (a.first m (by omega)).append (a.slice m n (by omega)) = a := by
  apply ext
  have whole : (a.toList.drop m).take n = a.toList.drop m :=
    List.take_of_length_le (by simp)
  simp [append, first, slice, whole]

/-- The octets of `a` and `b` place by place under exclusive or. -/
def xor (a b : Octets n) : Octets n :=
  ⟨a.toList.zipWith (· ^^^ ·) b.toList, by simp⟩

end Octets
end DoubleRatchet
