/-!
# Sizes of numbers

The whole numbers of documents and settings are words of 32 or 64 bits, and spans of time
are counted in nanoseconds.
-/
namespace ActivityFlow

abbrev words32 : Nat := 4294967296

abbrev words64 : Nat := 18446744073709551616

/-- The number of words of 63 bits, which is where words of 64 bits with a sign end. -/
abbrev words63 : Nat := 9223372036854775808

abbrev nanosPerSecond : Nat := 1000000000

/-- The nanoseconds of a millisecond. -/
abbrev nanosPerMilli : Nat := 1000000

end ActivityFlow
