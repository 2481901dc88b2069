import Stencil.Digest.Blake2
import Stencil.Digest.Md5
import Stencil.Digest.Sha1
import Stencil.Digest.Sha3
import Stencil.Encoding.Hex

/-!
# Digests by name

The digests that can be asked for, by their names and the other spellings of those, and the digest
of a message under a key.
-/

namespace Stencil.Digest

open Stencil.Text

/-- A digest and the size of the blocks it reads. -/
structure Algorithm where
  block : Nat
  digest : Bytes → Bytes

/-- The digests by the names that are taken as they are. -/
def exactNames : List (String × Algorithm) :=
  [("md5", ⟨64, Md5.digest⟩),
    ("sha1", ⟨64, Sha1.digest⟩),
    ("sha224", ⟨64, Sha2.digest32 Sha2.initial224 28⟩),
    ("sha256", ⟨64, Sha2.digest32 Sha2.initial256 32⟩),
    ("sha384", ⟨128, Sha2.digest64 Sha2.initial384 48⟩),
    ("sha512", ⟨128, Sha2.digest64 Sha2.initial512 64⟩),
    ("sha512_224", ⟨128, Sha2.digest64 Sha2.initial512Of224 28⟩),
    ("sha512_256", ⟨128, Sha2.digest64 Sha2.initial512Of256 32⟩),
    ("sha3_224", ⟨144, Sha3.digest 28⟩),
    ("sha3_256", ⟨136, Sha3.digest 32⟩),
    ("sha3_384", ⟨104, Sha3.digest 48⟩),
    ("sha3_512", ⟨72, Sha3.digest 64⟩),
    ("blake2b", ⟨128, Blake2.digest64⟩),
    ("blake2s", ⟨64, Blake2.digest32⟩)]

/-- The other spellings, which may be in any case. -/
def otherNames : List (String × String) :=
  [("md5", "md5"), ("ssl3-md5", "md5"), ("sha1", "sha1"), ("sha-1", "sha1"), ("ssl3-sha1", "sha1"),
    ("sha224", "sha224"), ("sha-224", "sha224"), ("sha2-224", "sha224"),
    ("sha256", "sha256"), ("sha-256", "sha256"), ("sha2-256", "sha256"),
    ("sha384", "sha384"), ("sha-384", "sha384"), ("sha2-384", "sha384"),
    ("sha512", "sha512"), ("sha-512", "sha512"), ("sha2-512", "sha512"),
    ("sha512-224", "sha512_224"), ("sha-512/224", "sha512_224"), ("sha2-512/224", "sha512_224"),
    ("sha512-256", "sha512_256"), ("sha-512/256", "sha512_256"), ("sha2-512/256", "sha512_256"),
    ("sha3-224", "sha3_224"), ("sha3-256", "sha3_256"), ("sha3-384", "sha3_384"),
    ("sha3-512", "sha3_512"), ("blake2b512", "blake2b"), ("blake2b-512", "blake2b"),
    ("blake2s256", "blake2s"), ("blake2s-256", "blake2s")]

def algorithm? (name : String) : Option Algorithm :=
  match exactNames.lookup name with
  | some a => some a
  | none => (otherNames.lookup name.toLower).bind fun n => exactNames.lookup n

/-- The digest of a message under a key. -/
def Algorithm.keyed (a : Algorithm) (key msg : Bytes) : Bytes :=
  let key := if a.block < key.length then a.digest key else key
  let key := key ++ List.replicate (a.block - key.length) 0
  a.digest (key.map (· ^^^ 0x5C) ++ a.digest (key.map (· ^^^ 0x36) ++ msg))

end Stencil.Digest
