import QueryGateway.Digest.Sha256
import QueryGateway.Text.Blank
import QueryGateway.Text.Utf8
import QueryGateway.Time.Instant

/-! The key under which a result is kept, and the signature of what is kept. -/
namespace QueryGateway.Cache

/-- A key: a digest in hexadecimal digits. -/
structure Key where
  digest : String
  deriving DecidableEq, Repr

/-- What a key is the digest of: the statement without the blanks around it, and the whole
seconds of the lifetime. -/
def material (sql : String) (lifetime : Span) : List Char :=
  Text.trimChars sql.toList ++ '_' :: Nat.toDigits 10 lifetime.seconds

/-- The key of a statement and a lifetime. -/
def Key.of (sql : String) (lifetime : Span) : Key :=
  ⟨Digest.sha256Hex (Text.Utf8.encodeChars (material sql lifetime))⟩

/-- The signature of a payload: its digest. -/
def signature (payload : List UInt8) : String := Digest.sha256Hex payload

end QueryGateway.Cache
