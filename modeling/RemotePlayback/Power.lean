/-!
Powers.

Numbers are raised to a power by the arithmetic of the core library, which computes on numerals. The
general powers of algebra, where they are known as well, come second.
-/

attribute [default_instance 20000, instance (20000)] instPowNat
