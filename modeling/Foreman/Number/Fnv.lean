/-!
# FNV-1a hashing

The 64-bit FNV-1a hash: from the offset basis, each byte is xored in and the result multiplied
by the FNV prime modulo `2 ^ 64`; written in lower-case hexadecimal without leading zeros.
-/

namespace Foreman.Fnv

def basis : Nat := 0xcbf29ce484222325

def prime : Nat := 0x100000001b3

/-- One round: mixes a byte into the hash. -/
def mix (h : Nat) (b : UInt8) : Nat := (h ^^^ b.toNat) * prime % 18446744073709551616

def hash (bytes : List UInt8) : Nat := bytes.foldl mix basis

def hashText (s : String) : Nat := hash s.toUTF8.toList

def hex (h : Nat) : String := String.ofList (Nat.toDigits 16 h)

theorem mix_lt (h : Nat) (b : UInt8) : mix h b < 18446744073709551616 := Nat.mod_lt _ (by decide)

end Foreman.Fnv
