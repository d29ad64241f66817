/-
This file fixes which power of numbers is meant by `2 ^ 64` and the like.

It is the one of the core library. Modules that import more of mathematics know
the power of any monoid besides, which is the same function, and would prefer
that one.
-/

attribute [default_instance 10000] instPowNat
