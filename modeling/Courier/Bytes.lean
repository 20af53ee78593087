/-!
# Bytes

Everything that travels over a connection, and everything that is encoded to travel, is a list
of bytes. Lists are the one representation, so that layouts can be stated with `++`, `take` and
`drop`.
-/

namespace Courier

/-- Raw bytes. -/
abbrev Bytes := List UInt8

end Courier
